import PluginHost.Settings.Document
import PluginHost.Decimal.Layout
import PluginHost.Decimal.Limit

/-
This file reads settings from a document. A problem is reported with the path of the value that has
it and with the source that value came from.
-/

namespace PluginHost

/-- Layered documents come from files, the environment and overrides; plain ones are single
values. They differ in what they take for a variant, in whether a list may be too long, and in
wording. -/
inductive Dialect where
  | layered
  | plain
deriving DecidableEq, Repr

/-- What stands where something else is expected. -/
inductive Shape where
  | scalar (value : Scalar)
  | list
  | table

def Document.shape : Document → Shape
  | .leaf _ value => .scalar value
  | .list .. => .list
  | .table .. => .table

namespace Shape

def flagText (value : Bool) : String := if value then "true" else "false"

def layeredText : Shape → String
  | .scalar .unit => "unit"
  | .scalar (.flag value) => "bool " ++ flagText value
  | .scalar (.unsigned value) => "unsigned int `" ++ toString value ++ "`"
  | .scalar (.signed value) => "signed int `" ++ toString value ++ "`"
  | .scalar (.float value) => "float `" ++ Decimal.plain value ++ "`"
  | .scalar (.letter value) => "string " ++ Text.quoted (String.singleton value)
  | .scalar (.text value) => "string " ++ Text.quoted value
  | .list => "sequence"
  | .table => "map"

def plainText : Shape → String
  | .scalar .unit => "null"
  | .scalar (.flag value) => "boolean `" ++ flagText value ++ "`"
  | .scalar (.unsigned value) => "integer `" ++ toString value ++ "`"
  | .scalar (.signed value) => "integer `" ++ toString value ++ "`"
  | .scalar (.float value) => "floating point `" ++ Decimal.compact value ++ "`"
  | .scalar (.letter value) => "string " ++ Text.quoted (String.singleton value)
  | .scalar (.text value) => "string " ++ Text.quoted value
  | .list => "sequence"
  | .table => "map"

end Shape

inductive Problem where
  | wrongType (found : Shape) (expected : String)
  | wrongValue (found : Shape) (expected : String)
  | wrongLength (length : Nat)
  | unknownVariant (found : String) (known : List String)
  | repeatedField (field : String)

namespace Problem

/-- Two choices are joined by a word, and more are listed. -/
def choices (known : List String) : String :=
  match known with
  | [] => "none"
  | [only] => "`" ++ only ++ "`"
  | [first, second] => "`" ++ first ++ "` or `" ++ second ++ "`"
  | several => "one of " ++ String.intercalate ", " (several.map fun name => "`" ++ name ++ "`")

def layeredMessage : Problem → String
  | .wrongType found expected =>
    "invalid type: found " ++ found.layeredText ++ ", expected " ++ expected
  | .wrongValue found expected =>
    "invalid value " ++ found.layeredText ++ ", expected " ++ expected
  | .wrongLength length =>
    "invalid length " ++ toString length ++ ", expected fewer elements in array"
  | .unknownVariant found known =>
    "unknown variant: found `" ++ found ++ "`, expected `" ++ choices known ++ "`"
  | .repeatedField field => "duplicate field `" ++ field ++ "`"

def plainMessage : Problem → String
  | .wrongType found expected =>
    "invalid type: " ++ found.plainText ++ ", expected " ++ expected
  | .wrongValue found expected =>
    "invalid value: " ++ found.plainText ++ ", expected " ++ expected
  | .wrongLength length =>
    "invalid length " ++ toString length ++ ", expected fewer elements in array"
  | .unknownVariant found known =>
    "unknown variant `" ++ found ++ "`, expected " ++ choices known
  | .repeatedField field => "duplicate field `" ++ field ++ "`"

end Problem

structure ReadError where
  problem : Problem
  path : List String := []
  origin : Option Origin := none

namespace ReadError

def upperAscii (text : String) : String := String.ofList (text.toList.map Char.toUpper)

/-- A path in the environment is written like the variables. -/
def key (origin : Origin) (path : List String) : String :=
  match origin with
  | .environment => String.intercalate "." (path.map upperAscii)
  | _ => String.intercalate "." ("default" :: path)

def source : Origin → String
  | .file path => " in " ++ path ++ " TOML file"
  | .environment => " in `TESSERA_` environment variable(s)"
  | .defaults => ""
  | .override => ""

/-- The key is given only when the source of the value is known. -/
def layeredMessage (error : ReadError) : String :=
  error.problem.layeredMessage ++
    match error.origin with
    | none => ""
    | some origin =>
      (if error.path.isEmpty then ""
        else " for key " ++ Text.quoted (key origin error.path)) ++ source origin

def plainMessage (error : ReadError) : String := error.problem.plainMessage

end ReadError

abbrev Read (α : Type) := Except ReadError α

namespace Read

/-- The innermost value with a source is the one that is reported. -/
def sourced {α : Type} (origin : Option Origin) (result : Read α) : Read α :=
  result.mapError fun error => { error with origin := error.origin.or origin }

def under {α : Type} (step : String) (result : Read α) : Read α :=
  result.mapError fun error => { error with path := step :: error.path }

def fail {α : Type} (document : Document) (problem : Problem) : Read α :=
  .error { problem := problem, origin := document.origin }

def expected {α : Type} (document : Document) (what : String) : Read α :=
  fail document (.wrongType document.shape what)

def flag (document : Document) : Read Bool :=
  match document with
  | .leaf _ (.flag value) => .ok value
  | other => expected other "a boolean"

def text (document : Document) : Read String :=
  match document with
  | .leaf _ (.text value) => .ok value
  | .leaf _ (.letter value) => .ok (String.singleton value)
  | other => expected other "a string"

/-- The unit stands for no path. -/
def path (document : Document) : Read (Option String) :=
  match document with
  | .leaf _ .unit => .ok none
  | .leaf _ (.text value) => .ok (some value)
  | .leaf _ (.letter value) => .ok (some (String.singleton value))
  | other => expected other "path string"

def word (document : Document) : Read UInt32 :=
  match document with
  | .leaf origin (.unsigned value) =>
    if value < Limit.word32 then .ok (UInt32.ofNat value)
    else fail (.leaf origin (.unsigned value)) (.wrongValue (.scalar (.unsigned value)) "u32")
  | .leaf origin (.signed value) =>
    if 0 ≤ value && value < Limit.word32 then .ok (UInt32.ofNat value.toNat)
    else fail (.leaf origin (.signed value)) (.wrongValue (.scalar (.signed value)) "u32")
  | other => expected other "u32"

/-- An enumeration is known by its name in messages and by the names of its values. -/
structure Choice (α : Type) where
  title : String
  values : List α
  name : α → String

def named {α : Type} (choice : Choice α) (origin : Option Origin) (found : String) : Read α :=
  match choice.values.find? fun value => choice.name value == found with
  | some value => .ok value
  | none => .error {
      problem := .unknownVariant found (choice.values.map choice.name), origin := origin }

/-- The content of a variant that has none. -/
def noContent (document : Document) : Read Unit :=
  match document with
  | .leaf _ .unit => .ok ()
  | other => expected other "unit"

/-- A variant is named by a text, or by the key of a table whose value is the unit. A plain
document must not have a second key, a layered one may. -/
def choice {α : Type} (dialect : Dialect) (choice : Choice α) (document : Document) : Read α :=
  match dialect, document with
  | _, .leaf origin (.text found) => named choice origin found
  | .plain, .table origin [(found, content)] => do
    let value ← named choice origin found
    noContent content
    return value
  | .plain, .table origin members =>
    fail (.table origin members) (.wrongValue .table "map with a single key")
  | .plain, other => expected other "string or map"
  | .layered, .table origin ((found, content) :: _) =>
    Read.under found do
      let value ← named choice origin found
      noContent content
      return value
  | .layered, .table origin [] => expected (.table origin []) "enum"
  | .layered, other => expected other ("enum " ++ choice.title)

/-- A member of a structure: the field it sets, the step it adds to the path, and its value. -/
structure Member where
  field : String
  step : String
  value : Document

/-- A structure is read from a table, or from a list of its fields in order. -/
def membersOf (title : String) (fields : List String) (document : Document) :
    Read (List Member) :=
  match document with
  | .table _ members => .ok (members.map fun member => ⟨member.1, member.1, member.2⟩)
  | .list _ items =>
    .ok ((fields.zip items.zipIdx).map fun entry => ⟨entry.1, toString entry.2.2, entry.2.1⟩)
  | other => expected other ("struct " ++ title)

/-- Only a plain list is refused for being too long. -/
def checkLength (dialect : Dialect) (fields : List String) (document : Document) : Read Unit :=
  match dialect, document with
  | .plain, .list origin items =>
    if items.length ≤ fields.length then .ok ()
    else fail (.list origin items) (.wrongLength items.length)
  | _, _ => .ok ()

/-- Fields that are not mentioned keep their defaults, and unknown fields are skipped. -/
def fieldwise {α : Type} (dialect : Dialect) (title : String) (fields : List String)
    (initial : α) (set : α → Member → Read α) (document : Document) : Read α := do
  let members ← membersOf title fields document
  let value ← members.foldlM
    (fun value member => ((set value member).under member.step).sourced document.origin) initial
  checkLength dialect fields document
  return value

/-- Reads a value under every name of a table. -/
def mapping {α : Type} (read : Document → Read α) (document : Document) : Read (Table α) :=
  match document with
  | .table origin members =>
    members.foldlM (fun table member => do
      let value ← ((read member.2).under member.1).sourced origin
      return Table.insert table member.1 value) []
  | other => expected other "a map"

end Read

namespace Settings

open Read

def levels : Choice Log.Level := ⟨"LogLevel", Log.Level.all, Log.Level.name⟩

def formats : Choice LogFormat := ⟨"LogFormat", LogFormat.all, LogFormat.name⟩

def outputs : Choice LogOutput := ⟨"LogOutput", LogOutput.all, LogOutput.name⟩

def spanEventFields : List String := ["new", "enter", "exit", "close"]

def setSpanEvent (events : SpanEvents) (member : Member) : Read SpanEvents :=
  match member.field with
  | "new" => (flag member.value).map fun value => { events with new := value }
  | "enter" => (flag member.value).map fun value => { events with enter := value }
  | "exit" => (flag member.value).map fun value => { events with exit := value }
  | "close" => (flag member.value).map fun value => { events with close := value }
  | _ => .ok events

def readSpanEvents (dialect : Dialect) (document : Document) : Read SpanEvents :=
  Read.fieldwise dialect "SpanEventConfig" spanEventFields {} setSpanEvent document

def loggingFields : List String :=
  ["level", "format", "output", "file_path", "max_files", "span_events", "thread_ids",
    "file_location", "filters"]

def setLogging (dialect : Dialect) (logging : LogSettings) (member : Member) :
    Read LogSettings :=
  let value := member.value
  match member.field with
  | "level" => (choice dialect levels value).map fun level => { logging with level := level }
  | "format" => (choice dialect formats value).map fun format => { logging with format := format }
  | "output" => (choice dialect outputs value).map fun output => { logging with output := output }
  | "file_path" => (path value).map fun path => { logging with filePath := path }
  | "max_files" => (word value).map fun count => { logging with maxFiles := count }
  | "span_events" =>
    (readSpanEvents dialect value).map fun events => { logging with spanEvents := events }
  | "thread_ids" => (flag value).map fun shown => { logging with threadIds := shown }
  | "file_location" => (flag value).map fun shown => { logging with fileLocation := shown }
  | "filters" =>
    (mapping (choice dialect levels) value).map fun filters =>
      { logging with filters := filters }
  | _ => .ok logging

def readLogging (dialect : Dialect) (document : Document) : Read LogSettings :=
  Read.fieldwise dialect "LoggingConfig" loggingFields {} (setLogging dialect) document

def fields : List String := ["instance_name", "logging", "plugins_args"]

/-- The plugin arguments have two names, and only one of them may be used. -/
def isPluginArgs (field : String) : Bool := field == "plugins_args" || field == "plugins-args"

/-- The settings read so far, and whether the plugin arguments are among them. -/
def setField (dialect : Dialect) (state : Settings × Bool) (member : Member) :
    Read (Settings × Bool) :=
  let (settings, seen) := state
  if isPluginArgs member.field then
    if seen then .error { problem := .repeatedField "plugins_args" }
    else
      (mapping (fun value => .ok value.json) member.value).map fun arguments =>
        ({ settings with pluginArgs := arguments }, true)
  else
    match member.field with
    | "instance_name" =>
      (text member.value).map fun name => ({ settings with instanceName := name }, seen)
    | "logging" =>
      (readLogging dialect member.value).map fun logging =>
        ({ settings with logging := logging }, seen)
    | _ => .ok state

def read (dialect : Dialect) (document : Document) : Read Settings :=
  (Read.fieldwise dialect "TesseraConfig" fields ({}, false) (setField dialect) document).map
    Prod.fst

/-- Reads settings from a single value. -/
def ofJson (value : Json) : Except String Settings :=
  (read .plain (.ofJson none value)).mapError ReadError.plainMessage

end Settings

end PluginHost
