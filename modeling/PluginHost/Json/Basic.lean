import PluginHost.Table

/-
This file holds the values of plugin configuration. An integer keeps being an integer, and an
object lists its members by ascending name.
-/

namespace PluginHost

inductive Json where
  | null
  | flag (value : Bool)
  | integer (value : Int)
  | decimal (value : Float)
  | text (value : String)
  | list (items : List Json)
  | object (members : List (String × Json))

instance : Inhabited Json := ⟨.null⟩

/-- A configuration section. -/
abbrev Section := Table Json

namespace Json

/-- Numbers and texts are never read as flags. -/
def flag? : Json → Option Bool
  | .flag value => some value
  | _ => none

def text? : Json → Option String
  | .text value => some value
  | _ => none

def members? : Json → Option Section
  | .object members => some members
  | _ => none

/-- A negative integer is no natural number. -/
def natural? : Json → Option Nat
  | .integer (.ofNat value) => some value
  | _ => none

/-- A double without a finite value has no written form and becomes null. -/
def ofFloat (value : Float) : Json := if value.isFinite then .decimal value else .null

def strings (texts : List String) : Json := .list (texts.map .text)

/-- Later members replace earlier ones of the same name. -/
def ofMembers (members : List (String × Json)) : Json := .object (Table.ofEntries members)

end Json

end PluginHost
