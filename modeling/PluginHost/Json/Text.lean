import PluginHost.Json.Basic
import PluginHost.Text.Quoted
import PluginHost.Decimal.Layout

/-
This file writes configuration values: compactly, as they are exchanged, and openly, with the kind
of each value in front.
-/

namespace PluginHost.Json

/-- Only the quote, the backslash and the control characters are escaped. -/
def escapedChar (c : Char) : String :=
  match c with
  | '"' => "\\\""
  | '\\' => "\\\\"
  | '\n' => "\\n"
  | '\r' => "\\r"
  | '\t' => "\\t"
  | c =>
    if c.toNat = 0x08 then "\\b"
    else if c.toNat = 0x0C then "\\f"
    else if c.toNat < 0x20 then "\\u" ++ Text.hex4 c.toNat
    else String.singleton c

def escaped (text : String) : String :=
  "\"" ++ String.join (text.toList.map escapedChar) ++ "\""

mutual

/-- No blank is written between the parts. -/
def render : Json → String
  | .null => "null"
  | .flag value => if value then "true" else "false"
  | .integer value => toString value
  | .decimal value => Decimal.compact value
  | .text value => escaped value
  | .list items => "[" ++ String.intercalate "," (renderItems items) ++ "]"
  | .object members => "\x7b" ++ String.intercalate "," (renderMembers members) ++ "\x7d"

def renderItems : List Json → List String
  | [] => []
  | item :: rest => item.render :: renderItems rest

def renderMembers : List (String × Json) → List String
  | [] => []
  | (name, value) :: rest => (escaped name ++ ":" ++ value.render) :: renderMembers rest

end

mutual

/-- Each value shows its kind. -/
def inspect : Json → String
  | .null => "Null"
  | .flag value => "Bool(" ++ (if value then "true" else "false") ++ ")"
  | .integer value => "Number(" ++ toString value ++ ")"
  | .decimal value => "Number(" ++ Decimal.compact value ++ ")"
  | .text value => "String(" ++ Text.quoted value ++ ")"
  | .list items => "Array [" ++ String.intercalate ", " (inspectItems items) ++ "]"
  | .object members =>
    "Object \x7b" ++ String.intercalate ", " (inspectMembers members) ++ "\x7d"

def inspectItems : List Json → List String
  | [] => []
  | item :: rest => item.inspect :: inspectItems rest

def inspectMembers : List (String × Json) → List String
  | [] => []
  | (name, value) :: rest => (Text.quoted name ++ ": " ++ value.inspect) :: inspectMembers rest

end

/-- A section is shown without the word before an object. -/
def inspectSection (members : Section) : String :=
  "\x7b" ++ String.intercalate ", " (inspectMembers members) ++ "\x7d"

end PluginHost.Json
