import PluginHost.Settings.Reading

/-
This file reads the points of an exchange and of startup from single values.
-/

namespace PluginHost

namespace InterceptPoint

def choice : Read.Choice InterceptPoint := ⟨"InterceptPoint", all, name⟩

def ofJson (value : Json) : Except String InterceptPoint :=
  (Read.choice .plain choice (.ofJson none value)).mapError ReadError.plainMessage

end InterceptPoint

namespace InitPoint

def choice : Read.Choice InitPoint := ⟨"InitPoint", all, name⟩

def ofJson (value : Json) : Except String InitPoint :=
  (Read.choice .plain choice (.ofJson none value)).mapError ReadError.plainMessage

end InitPoint

end PluginHost
