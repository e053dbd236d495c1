import PluginHost.Log.Setup

/-
This file writes log entries as lines. An entry is let through by the filter, and it is shown
inside the spans that are let through and entered.
-/

namespace PluginHost.Log

namespace Layout

def padded (level : Level) : String :=
  (if level.upperName.length < 5 then " " else "") ++ level.upperName

/-- A character that steers a terminal is written by its code. -/
def harmlessChar (c : Char) : String :=
  if ['\x07', '\x08', '\x0c', '\x1b', '\x7f'].contains c then
    (if c.toNat < 16 then "\\x0" else "\\x") ++ Text.hex c.toNat
  else if 0x80 ≤ c.toNat && c.toNat ≤ 0x9F then "\\u\x7b" ++ Text.hex c.toNat ++ "\x7d"
  else String.singleton c

def harmless (text : String) : String := String.join (text.toList.map harmlessChar)

/-- In one line a field is written with an equals sign. -/
def inlineField (field : String × Field) : String :=
  field.1 ++ "=" ++ harmless field.2.written

def words (parts : List String) : String :=
  String.intercalate " " (parts.filter fun part => !part.isEmpty)

/-- The program runs on one thread only. -/
def thread : String := "ThreadId(01)"

def target (setup : Setup) (event : Event) : String :=
  if setup.showsTarget then event.target ++ ":" else ""

def shownThread (setup : Setup) : String := if setup.showsThread then thread else ""

/-- The names of the spans stand in front, their fields behind everything else. -/
def compact (setup : Setup) (spans : List Span) (event : Event) : List String :=
  let names := String.intercalate ":" (spans.map Span.name)
  [padded event.level ++ " " ++
    words ([shownThread setup, if names.isEmpty then "" else names ++ ":", target setup event,
      harmless event.message] ++ event.fields.map inlineField ++
      (spans.flatMap Span.fields).map inlineField)]

/-- A span shows its fields right behind its name. -/
def spanName (span : Span) : String :=
  if span.fields.isEmpty then span.name
  else span.name ++ "\x7b" ++ words (span.fields.map inlineField) ++ "\x7d"

def full (setup : Setup) (spans : List Span) (event : Event) : List String :=
  let names := String.intercalate ":" (spans.map spanName)
  [padded event.level ++ " " ++
    words ([shownThread setup, if names.isEmpty then "" else names ++ ":", target setup event,
      harmless event.message] ++ event.fields.map inlineField)]

def prettyField (field : String × Field) : String :=
  field.1 ++ ": " ++ harmless field.2.written

def prettySpan (span : Span) : String :=
  "    in " ++ span.target ++ "::" ++ span.name ++
    if span.fields.isEmpty then ""
    else " with " ++ String.intercalate ", " (span.fields.map prettyField)

/-- The innermost span comes first, and a blank line ends the entry. -/
def pretty (setup : Setup) (spans : List Span) (event : Event) : List String :=
  ["  " ++ padded event.level ++ " " ++ words [target setup event,
      String.intercalate ", " (harmless event.message :: event.fields.map prettyField)]] ++
    (if setup.showsThread then ["    on ThreadId(1)"] else []) ++
    spans.reverse.map prettySpan ++ [""]

def event (setup : Setup) (spans : List Span) (event : Event) : List String :=
  match setup.format with
  | .compact => compact setup spans event
  | .full => full setup spans event
  | .pretty => pretty setup spans event

/-- What happens to a span is written as an event inside of it. -/
def spanEvent (setup : Setup) (wanted : Bool) (spans : List Span) (span : Span)
    (message : String) : List String :=
  if wanted then
    event setup spans { level := span.level, target := span.target, message := message }
  else []

end Layout

namespace Setup

/-- Writes the entries in turn; the list holds the spans that are entered, the outermost first. -/
def write (setup : Setup) (filter : Filter) : List Span → List Entry → List String
  | _, [] => []
  | spans, .event event :: rest =>
    (if filter.letsEvent spans event then Layout.event setup spans event
      else []) ++ setup.write filter spans rest
  | spans, .opened span :: rest =>
    (if filter.letsSpan spans span then
        Layout.spanEvent setup setup.spanEvents.new (spans ++ [span]) span "new"
      else []) ++ setup.write filter spans rest
  | spans, .entered span :: rest =>
    if filter.letsSpan spans span then
      Layout.spanEvent setup setup.spanEvents.enter (spans ++ [span]) span "enter" ++
        setup.write filter (spans ++ [span]) rest
    else setup.write filter spans rest
  | spans, .left span :: rest =>
    if spans.getLast? = some span then
      Layout.spanEvent setup setup.spanEvents.exit spans span "exit" ++
        setup.write filter spans.dropLast rest
    else setup.write filter spans rest

end Setup

end PluginHost.Log
