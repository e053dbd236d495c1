/-
This file names the least numbers that do not fit a machine word any more.
-/

namespace PluginHost.Limit

/-- Two to the power of 32. -/
def word32 : Nat := 4294967296

/-- Two to the power of 63. -/
def signed64 : Nat := 9223372036854775808

/-- Two to the power of 64. -/
def word64 : Nat := 18446744073709551616

end PluginHost.Limit
