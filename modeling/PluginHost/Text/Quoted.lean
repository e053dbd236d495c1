import PluginHost.Text.Hidden

/-
This file writes a text between double quotes so that every character of it can be seen.
-/

namespace PluginHost.Text

/-- The digits are lower case and carry no leading zeros. -/
def hex (n : Nat) : String := String.ofList (Nat.toDigits 16 n)

/-- Four digits at least, as short escapes are written. -/
def hex4 (n : Nat) : String :=
  let digits := Nat.toDigits 16 n
  String.ofList (List.replicate (4 - digits.length) '0' ++ digits)

/-- A character without a mark of its own is written by its code point in braces. -/
def quotedChar (c : Char) : String :=
  match c with
  | '"' => "\\\""
  | '\\' => "\\\\"
  | '\n' => "\\n"
  | '\r' => "\\r"
  | '\t' => "\\t"
  | c =>
    if c.toNat = 0 then "\\0"
    else if isHidden c then "\\u\x7b" ++ hex c.toNat ++ "\x7d"
    else String.singleton c

def quoted (text : String) : String :=
  "\"" ++ String.join (text.toList.map quotedChar) ++ "\""

/-- A list is written in brackets with its items parted by commas. -/
def bracketed (items : List String) : String :=
  "[" ++ String.intercalate ", " items ++ "]"

/-- A value with named parts is written as its name and the parts in braces. -/
def labelled (name : String) (parts : List (String × String)) : String :=
  name ++ " \x7b " ++
    String.intercalate ", " (parts.map fun part => part.1 ++ ": " ++ part.2) ++ " \x7d"

/-- The dots stand for parts that are not shown. -/
def labelledOpen (name : String) (parts : List (String × String)) : String :=
  name ++ " \x7b " ++
    String.join (parts.map fun part => part.1 ++ ": " ++ part.2 ++ ", ") ++ ".. \x7d"

def optional : Option String → String
  | some text => "Some(" ++ text ++ ")"
  | none => "None"

end PluginHost.Text
