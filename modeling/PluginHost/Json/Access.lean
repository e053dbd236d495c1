import PluginHost.Json.Basic

/-
This file reads the members of objects, with a default for each that is left out.
-/

namespace PluginHost.Json

/-- A member that is missing, and any member of what is no object, is null. -/
def member (object : Json) (name : String) : Json :=
  (object.members?.bind fun members => Table.find? members name).getD .null

/-- A null counts as left out. -/
def given? (object : Json) (name : String) : Option Json :=
  match object.member name with
  | .null => none
  | value => some value

def asText (value : Json) : String := value.text?.getD ""

def asItems : Json → List Json
  | .list items => items
  | _ => []

def asInteger : Json → Int
  | .integer value => value
  | _ => 0

def asSection (value : Json) : Section := value.members?.getD []

def textAt (object : Json) (name : String) : String := (object.member name).asText

def itemsIn (object : Json) (name : String) : List Json := (object.member name).asItems

def textsIn (object : Json) (name : String) : List String :=
  (object.itemsIn name).map asText

def textOr (object : Json) (name default : String) : String :=
  ((object.given? name).bind text?).getD default

def flagOr (object : Json) (name : String) (default : Bool) : Bool :=
  ((object.given? name).bind flag?).getD default

def integerOr (object : Json) (name : String) (default : Int) : Int :=
  ((object.given? name).map asInteger).getD default

/-- Reads a list of names with their values; an item of another form is passed over. -/
def pairs (value : Json) : List (String × Json) :=
  value.asItems.filterMap fun item =>
    match item with
    | .list [name, content] => some (name.asText, content)
    | _ => none

def ofOption (value : Option Json) : Json := value.getD .null

def ofTextOption (value : Option String) : Json := ofOption (value.map .text)

end PluginHost.Json
