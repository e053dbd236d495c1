import PluginHost.Decimal.Reading
import PluginHost.Log.Event
import PluginHost.Log.Pattern
import PluginHost.Text.Alphanumeric
import PluginHost.Text.Blank

/-
This file reads the directives of the log. A directive sets the least grave level that is let
through: for a target and everything below it, for what has certain fields, or for what happens
inside of a span.
-/

namespace PluginHost.Log

/-- What the text of a field is held against. Some values are those of no text. -/
inductive Expected where
  | fitting (text : String) (pattern : Pattern)
  | notText
deriving DecidableEq, Repr

structure FieldTest where
  name : String
  value : Option Expected
deriving DecidableEq, Repr

inductive DirectiveError where
  | malformed
  | wrongLevel
  | wrongPattern (error : PatternError)
deriving DecidableEq, Repr

def DirectiveError.message : DirectiveError → String
  | .malformed => "invalid filter directive"
  | .wrongLevel =>
    "error parsing level filter: expected one of \"off\", \"error\", \"warn\", \"info\", " ++
      "\"debug\", \"trace\", or a number 0-5"
  | .wrongPattern error => "invalid field filter: " ++ error.message

namespace Expected

def isNumber (text : String) : Bool :=
  let name := String.ofList ((Decimal.takeSign text.toList).2.map Char.toLower)
  (Decimal.float? text.toList).isSome || name == "inf" || name == "infinity" || name == "nan"

def read (text : String) : Except DirectiveError Expected :=
  if text = "true" || text = "false" || isNumber text then .ok .notText
  else
    match Pattern.read text with
    | .ok pattern => .ok (.fitting text pattern)
    | .error error => .error (.wrongPattern error)

def holds (expected : Expected) (text : String) : Bool :=
  match expected with
  | .fitting _ pattern => pattern.fits text
  | .notText => false

end Expected

/-- The value stands behind an equals sign. What follows a second one does not count. -/
def FieldTest.read (text : String) : Except DirectiveError FieldTest :=
  match text.splitOn "=" with
  | [] => .error .malformed
  | [name] => .ok ⟨name, none⟩
  | name :: value :: _ => (Expected.read value).map fun value => ⟨name, some value⟩

/-- No level lets nothing through. -/
structure Directive where
  target : Option String := none
  span : Option String := none
  fields : List FieldTest := []
  level : Option Level := some .trace
deriving DecidableEq, Repr

namespace Directive

def digitLevel? (value : Nat) : Option (Option Level) :=
  if value = 0 then some none
  else (Level.all.find? fun level => level.verbosity == value).map some

/-- A level is named, or numbered by its verbosity. -/
def level? (text : String) : Option (Option Level) :=
  match Decimal.natural? text.toList with
  | some value => digitLevel? value
  | none =>
    let name := String.ofList (text.toList.map Char.toLower)
    if name = "off" then some none
    else (Level.all.find? fun level => level.name == name).map some

/-- A target starts with a letter, a digit or one of a few marks. -/
def startsTarget (c : Char) : Bool :=
  Text.isAlphanumeric c || c == '-' || c == ':' || c == '_'

/-- A single word is a level if it can be one, and a target otherwise. -/
def withWord (directive : Directive) (word : String) : Directive :=
  match level? word with
  | some level => { directive with level := level }
  | none => { directive with target := some word }

/-- The level behind an equals sign may be left out. -/
def withLevel (directive : Directive) (text : String) : Except DirectiveError Directive :=
  if text.isEmpty then .ok directive
  else
    match level? text with
    | some level => .ok { directive with level := level }
    | none => .error .wrongLevel

def withField (directive : Directive) (text : String) : Except DirectiveError Directive :=
  (FieldTest.read text).map fun field => { directive with fields := directive.fields ++ [field] }

/-- The part of a directive that is read, with the place where it began. -/
inductive Part where
  | beginning
  | word (since : Nat)
  | span (since : Nat)
  | field (since : Nat)
  | fieldsEnd
  | target
  | level (since : Nat)
  | complete

/-- Each character with the number of bytes in front of it. -/
def places (offset : Nat) : List Char → List (Nat × Char)
  | [] => []
  | c :: rest => (offset, c) :: places (offset + c.utf8Size) rest

/-- The characters from one place to another. -/
def cut (text : List (Nat × Char)) (first last : Nat) : String :=
  String.ofList
    ((text.filter fun place => first ≤ place.1 && place.1 < last).map Prod.snd)

def cutFrom (text : List (Nat × Char)) (first : Nat) : String :=
  String.ofList ((text.filter fun place => first ≤ place.1).map Prod.snd)

/-- Passes one character. -/
def step (text : List (Nat × Char)) (directive : Directive) (part : Part) (place : Nat × Char) :
    Except DirectiveError (Directive × Part) :=
  let (here, c) := place
  match part with
  | .beginning =>
    if c = '[' then .ok (directive, .span (here + 1))
    else if startsTarget c then .ok (directive, .word here)
    else .error .malformed
  | .word since =>
    if c = '=' then .ok ({ directive with target := cut text since here }, .level (here + 1))
    else if c = '[' then
      .ok ({ directive with target := cut text since here }, .span (here + 1))
    else if c = ',' then .ok (directive.withWord (cutFrom text since), .complete)
    else .ok (directive, part)
  | .span since =>
    let name := cut text since here
    if c = ']' then .ok ({ directive with span := some name }, .target)
    else if c = '\x7b' then
      .ok (if name.isEmpty then directive else { directive with span := some name },
        .field (here + 1))
    else .ok (directive, part)
  | .field since =>
    let field := cut text since here
    if c = '\x7d' || c = ',' then
      if field.isEmpty then .error .malformed
      else
        (directive.withField field).map fun directive =>
          (directive, if c = ',' then .field (here + 1) else .fieldsEnd)
    else .ok (directive, part)
  | .fieldsEnd => if c = ']' then .ok (directive, .target) else .error .malformed
  | .target => if c = '=' then .ok (directive, .level (here + 1)) else .error .malformed
  | .level since =>
    if c = ',' then
      (directive.withLevel (cut text since here)).map fun directive => (directive, .complete)
    else .ok (directive, part)
  | .complete => .error .malformed

/-- The last part reaches to the end of the text. -/
def finish (text : List (Nat × Char)) (directive : Directive) (part : Part) :
    Except DirectiveError Directive :=
  match part with
  | .word since => .ok (directive.withWord (cutFrom text since))
  | .level since => directive.withLevel (cutFrom text since)
  | .target => .ok directive
  | .complete => .ok directive
  | _ => .error .malformed

/-- The characters are those without blanks at the ends, but the parts are cut from the text as it
stands. -/
def read (text : String) : Except DirectiveError Directive :=
  let cutting := places 0 text.toList
  ((places 0 (Text.trimChars text.toList)).foldlM
    (fun state place => step cutting state.1 state.2 place) ({}, .beginning)).bind
      fun state => finish cutting state.1 state.2

def read? (text : String) : Option Directive := (read text).toOption

def verbosity (directive : Directive) : Nat := (directive.level.map Level.verbosity).getD 0

def fieldNames (directive : Directive) : List String := directive.fields.map FieldTest.name

def hasValues (directive : Directive) : Bool :=
  directive.fields.any fun field => field.value.isSome

/-- Whether the directive can be followed without regard to spans. -/
def isGeneral (directive : Directive) : Bool := directive.span.isNone && !directive.hasValues

def isNested (directive : Directive) : Bool :=
  directive.span.isSome || !directive.fields.isEmpty

/-- A target covers everything that begins with it. -/
def covers (directive : Directive) (target : String) : Bool :=
  directive.target.all fun covered => target.startsWith covered

/-- An event has to have the fields that the directive names. -/
def coversEvent (directive : Directive) (event : Event) : Bool :=
  directive.covers event.target && directive.fieldNames.all fun name =>
    name == "message" || event.fields.any fun field => field.1 == name

/-- Whether the directive is about a span of this kind, whatever the values of its fields are. -/
def minds (directive : Directive) (span : Span) : Bool :=
  directive.covers span.target && directive.span.all (· == span.name) &&
    directive.fieldNames.all fun name => span.fields.any fun field => field.1 == name

/-- The last value that is asked of a field. -/
def expected? (directive : Directive) (name : String) : Option Expected :=
  (directive.fields.reverse.filter fun field => field.name == name).findSome? FieldTest.value

/-- Whether the directive holds inside of a span. -/
def holdsInside (directive : Directive) (span : Span) : Bool :=
  directive.minds span && span.fields.all fun (name, field) =>
    (directive.expected? name).all fun expected => expected.holds field.written

end Directive

end PluginHost.Log
