import PluginHost.Settings.Basic

/-
This file holds layered documents. Every value remembers the source it came from, and a document
laid over another one replaces its values but joins its tables.
-/

namespace PluginHost

inductive Origin where
  | defaults
  | file (path : String)
  | environment
  | override
deriving DecidableEq, Repr

/-- A letter is a text of one character that names no variant. -/
inductive Scalar where
  | unit
  | flag (value : Bool)
  | unsigned (value : Nat)
  | signed (value : Int)
  | float (value : Float)
  | letter (value : Char)
  | text (value : String)

/-- The members of a table are ascending by name. -/
inductive Document where
  | leaf (origin : Option Origin) (value : Scalar)
  | list (origin : Option Origin) (items : List Document)
  | table (origin : Option Origin) (members : List (String × Document))

namespace Document

def origin : Document → Option Origin
  | .leaf origin _ => origin
  | .list origin _ => origin
  | .table origin _ => origin

def text (origin : Option Origin) (value : String) : Document := .leaf origin (.text value)

def members? : Document → Option (List (String × Document))
  | .table _ members => some members
  | _ => none

mutual

/-- The upper document wins; two tables are joined. -/
def laidOver (upper lower : Document) : Document :=
  match upper, lower with
  | .table origin members, .table _ others => .table origin (membersLaidOver members others)
  | upper, _ => upper

/-- Lays each upper member over the lower one of its name. -/
def membersLaidOver (uppers lowers : List (String × Document)) : List (String × Document) :=
  match uppers with
  | [] => lowers
  | (name, upper) :: rest =>
    let joined := match Table.find? lowers name with
      | some lower => laidOver upper lower
      | none => upper
    Table.insert (membersLaidOver rest lowers) name joined

end

/-- Hangs a document below a path. The path ends at its first empty part. -/
def nest (origin : Option Origin) : List String → Document → Document
  | [], value => value
  | part :: rest, value =>
    if part.isEmpty then value else .table origin [(part, nest origin rest value)]

mutual

/-- An integer keeps its sign class, and null is the unit. -/
def ofJson (origin : Option Origin) : Json → Document
  | .null => .leaf origin .unit
  | .flag value => .leaf origin (.flag value)
  | .integer value =>
    .leaf origin (if value < 0 then .signed value else .unsigned value.toNat)
  | .decimal value => .leaf origin (.float value)
  | .text value => .leaf origin (.text value)
  | .list items => .list origin (ofJsonItems origin items)
  | .object members => .table origin (ofJsonMembers origin members)

def ofJsonItems (origin : Option Origin) : List Json → List Document
  | [] => []
  | item :: rest => ofJson origin item :: ofJsonItems origin rest

def ofJsonMembers (origin : Option Origin) :
    List (String × Json) → List (String × Document)
  | [] => []
  | (name, value) :: rest => (name, ofJson origin value) :: ofJsonMembers origin rest

end

def scalarJson : Scalar → Json
  | .unit => .null
  | .flag value => .flag value
  | .unsigned value => .integer value
  | .signed value => .integer value
  | .float value => Json.ofFloat value
  | .letter value => .text (String.singleton value)
  | .text value => .text value

mutual

/-- Reads the document as a free value. -/
def json : Document → Json
  | .leaf _ value => scalarJson value
  | .list _ items => .list (jsonItems items)
  | .table _ members => .object (jsonMembers members)

def jsonItems : List Document → List Json
  | [] => []
  | item :: rest => item.json :: jsonItems rest

def jsonMembers : List (String × Document) → List (String × Json)
  | [] => []
  | (name, value) :: rest => (name, value.json) :: jsonMembers rest

end

def ofFlag (origin : Option Origin) (value : Bool) : Document := .leaf origin (.flag value)

def ofSpanEvents (origin : Option Origin) (events : SpanEvents) : Document :=
  .table origin [("close", ofFlag origin events.close), ("enter", ofFlag origin events.enter),
    ("exit", ofFlag origin events.exit), ("new", ofFlag origin events.new)]

def ofLogSettings (origin : Option Origin) (logging : LogSettings) : Document :=
  .table origin [("file_location", ofFlag origin logging.fileLocation),
    ("file_path", (logging.filePath.map (text origin)).getD (.leaf origin .unit)),
    ("filters", .table origin
      (logging.filters.map fun filter => (filter.1, text origin filter.2.name))),
    ("format", text origin logging.format.name), ("level", text origin logging.level.name),
    ("max_files", .leaf origin (.unsigned logging.maxFiles.toNat)),
    ("output", text origin logging.output.name),
    ("span_events", ofSpanEvents origin logging.spanEvents),
    ("thread_ids", ofFlag origin logging.threadIds)]

/-- Writes settings as the document from which they can be read again. -/
def ofSettings (origin : Option Origin) (settings : Settings) : Document :=
  .table origin [("instance_name", text origin settings.instanceName),
    ("logging", ofLogSettings origin settings.logging),
    ("plugins_args", .table origin (ofJsonMembers origin settings.pluginArgs))]

end Document

end PluginHost
