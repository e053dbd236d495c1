import PluginHost.Text.Quoted

/-
This file holds what the host and its plugins report while they run: events with named fields, and
the spans that events fall into.
-/

namespace PluginHost.Log

/-- The levels run from the most verbose to the gravest. -/
inductive Level where
  | trace
  | debug
  | info
  | warn
  | error
deriving DecidableEq, Repr, Inhabited

namespace Level

def all : List Level := [.trace, .debug, .info, .warn, .error]

def name : Level → String
  | .trace => "trace"
  | .debug => "debug"
  | .info => "info"
  | .warn => "warn"
  | .error => "error"

def upperName : Level → String
  | .trace => "TRACE"
  | .debug => "DEBUG"
  | .info => "INFO"
  | .warn => "WARN"
  | .error => "ERROR"

/-- The greater the verbosity, the more is let through. -/
def verbosity : Level → Nat
  | .error => 1
  | .warn => 2
  | .info => 3
  | .debug => 4
  | .trace => 5

end Level

/-- A quoted field is written between quotes, a shown one as it stands. -/
inductive Field where
  | quoted (text : String)
  | shown (text : String)
  | integer (value : Int)
  | flag (value : Bool)
deriving DecidableEq, Repr

def Field.written : Field → String
  | .quoted text => Text.quoted text
  | .shown text => text
  | .integer value => toString value
  | .flag value => if value then "true" else "false"

structure Event where
  level : Level
  target : String
  message : String
  fields : List (String × Field) := []
deriving DecidableEq, Repr

structure Span where
  level : Level
  target : String
  name : String
  fields : List (String × Field) := []
deriving DecidableEq, Repr

/-- A span is opened and closed once, and may be entered and left in between. -/
inductive Entry where
  | event (reported : Event)
  | opened (span : Span)
  | entered (span : Span)
  | left (span : Span)
deriving DecidableEq, Repr

def Entry.event? : Entry → Option Event
  | .event reported => some reported
  | _ => none

end PluginHost.Log
