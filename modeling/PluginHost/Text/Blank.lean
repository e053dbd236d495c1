/-
This file trims the characters with the white space property of Unicode from the ends of a text.
-/

namespace PluginHost.Text

/-- The zero width space is not white space, the no-break space is. -/
def isBlank (c : Char) : Bool :=
  let n := c.toNat
  (0x09 ≤ n && n ≤ 0x0D) || n == 0x20 || n == 0x85 || n == 0xA0 || n == 0x1680 ||
    (0x2000 ≤ n && n ≤ 0x200A) || n == 0x2028 || n == 0x2029 || n == 0x202F || n == 0x205F ||
    n == 0x3000

def trimChars (chars : List Char) : List Char :=
  ((chars.dropWhile isBlank).reverse.dropWhile isBlank).reverse

def trim (text : String) : String := String.ofList (trimChars text.toList)

/-- A text of white space alone names nothing. -/
def isAllBlank (text : String) : Bool := text.toList.all isBlank

end PluginHost.Text
