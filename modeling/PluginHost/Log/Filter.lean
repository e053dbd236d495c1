import PluginHost.Log.Directive

/-
This file decides what is written to the log. General directives decide by where something comes
from, and the most specific one that covers it counts. Nested directives let through what happens
inside of spans.
-/

namespace PluginHost.Log

/-- Directives of one kind, with the greatest verbosity that any of them has ever asked for. -/
structure Rules where
  directives : List Directive := []
  most : Nat := 0
deriving DecidableEq, Repr

/-- A directive takes the place of those that are about the same. -/
def Rules.add (rules : Rules) (same : Directive → Bool) (directive : Directive) : Rules where
  directives := (rules.directives.filter fun other => !same other) ++ [directive]
  most := max rules.most directive.verbosity

structure Filter where
  general : Rules := {}
  nested : Rules := {}
deriving DecidableEq, Repr

namespace Filter

def addGeneral (filter : Filter) (directive : Directive) : Filter :=
  { filter with
    general := filter.general.add
      (fun other =>
        other.target == directive.target && other.fieldNames == directive.fieldNames)
      directive }

def addNested (filter : Filter) (directive : Directive) : Filter :=
  { filter with
    nested := filter.nested.add
      (fun other =>
        other.target == directive.target && other.span == directive.span &&
          other.fields == directive.fields)
      directive }

/-- A directive that is added later is nested only if it cannot be general. -/
def add (filter : Filter) (directive : Directive) : Filter :=
  if directive.isGeneral then filter.addGeneral directive else filter.addNested directive

def ofLevel (level : Level) : Filter := ({} : Filter).addGeneral { level := some level }

/-- A directive that is given at first may be general and nested at once. -/
def addInitial (filter : Filter) (directive : Directive) : Filter :=
  let filter := if directive.isGeneral then filter.addGeneral directive else filter
  if directive.isNested then filter.addNested directive else filter

/-- Reads directives with commas between them. None of them may be wrong, and without any only
errors are let through. -/
def read? (text : String) : Option Filter :=
  ((text.splitOn ",").filter fun part => !part.isEmpty).mapM Directive.read? |>.map fun read =>
    if read.isEmpty then ofLevel .error else read.foldl addInitial {}

/-- The longer target is more specific, then the greater number of fields. A target that is empty
is still longer than none. -/
def precedes (one other : Directive) : Bool :=
  let reach (directive : Directive) : Nat :=
    (directive.target.map fun target => target.utf8ByteSize + 1).getD 0
  if reach one ≠ reach other then reach other < reach one
  else if one.fields.length ≠ other.fields.length then other.fields.length < one.fields.length
  else other.fieldNames < one.fieldNames

def mostSpecific? (directives : List Directive) : Option Directive :=
  directives.foldl (fun best directive =>
    match best with
    | none => some directive
    | some other => if precedes directive other then some directive else some other) none

/-- The most specific of the general directives that cover something decides about it. -/
def lets (filter : Filter) (covers : Directive → Bool) (level : Level) : Bool :=
  (mostSpecific? (filter.general.directives.filter covers)).any fun directive =>
    level.verbosity ≤ directive.verbosity

/-- What happens inside of a span may be let through for the sake of the span. -/
def letsInside (filter : Filter) (spans : List Span) (level : Level) : Bool :=
  spans.any fun span => filter.nested.directives.any fun directive =>
    directive.holdsInside span && level.verbosity ≤ directive.verbosity

def letsEvent (filter : Filter) (spans : List Span) (event : Event) : Bool :=
  filter.letsInside spans event.level ||
    filter.lets (fun directive => directive.coversEvent event) event.level

/-- No span of a greater verbosity is looked at. Values of fields are known only of spans that have
been opened. -/
def reach (filter : Filter) : Nat :=
  if filter.nested.directives.any Directive.hasValues then Level.trace.verbosity
  else max filter.general.most filter.nested.most

def letsSpan (filter : Filter) (spans : List Span) (span : Span) : Bool :=
  span.level.verbosity ≤ filter.reach &&
    (filter.nested.directives.any (fun directive => directive.minds span) ||
      filter.letsInside spans span.level ||
      filter.lets (fun directive => directive.covers span.target) span.level)

end Filter

end PluginHost.Log
