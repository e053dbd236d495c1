import PluginHost.Settings.Document

/-
This file builds the tables of a TOML text. A table is defined once, by its header or by dotted
keys; a table that was only passed through on the way to another one may still be defined.
-/

namespace PluginHost.Toml

/-- An implicit table was passed through; a dotted one was passed through by a dotted key. The
last of several tables is the one that later keys reach. -/
inductive Branch where
  | leaf (value : Document)
  | table (implicit dotted : Bool) (entries : List (String × Branch))
  | tables (earlier : List (List (String × Branch))) (last : List (String × Branch))

abbrev Entries := List (String × Branch)

namespace Branch

mutual

def document (origin : Option Origin) : Branch → Document
  | .leaf value => value
  | .table _ _ entries => .table origin (documents origin entries)
  | .tables earlier last =>
    .list origin (documentLists origin earlier ++ [.table origin (documents origin last)])

def documents (origin : Option Origin) : List (String × Branch) → List (String × Document)
  | [] => []
  | (key, branch) :: rest => (key, branch.document origin) :: documents origin rest

def documentLists (origin : Option Origin) : List (List (String × Branch)) → List Document
  | [] => []
  | entries :: rest =>
    .table origin (documents origin entries) :: documentLists origin rest

end

end Branch

namespace Entries

/-- Changes the table at the end of a path, given whether it is a dotted one. Missing tables are
passed through. A dotted key does not pass through a table that is defined. -/
def edit (byKey : Bool) : List String → (Bool → Entries → Option Entries) →
    Bool → Entries → Option Entries
  | [], change, dotted, entries => change dotted entries
  | key :: path, change, _, entries =>
    match Table.find? entries key with
    | none =>
      (edit byKey path change byKey []).map fun inner =>
        Table.insert entries key (.table true byKey inner)
    | some (.leaf _) => none
    | some (.table implicit dotted inner) =>
      if byKey && !implicit then none
      else
        (edit byKey path change dotted inner).map fun inner =>
          Table.insert entries key (.table implicit dotted inner)
    | some (.tables earlier last) =>
      (edit byKey path change false last).map fun last =>
        Table.insert entries key (.tables earlier last)

/-- The value of a key is set once. A dotted key ends in a table made by dotted keys. -/
def assign (entries : Entries) (path : List String) (key : String) (value : Document) :
    Option Entries :=
  edit true path (fun dotted table =>
    if dotted == path.isEmpty || Table.contains table key then none
    else some (Table.insert table key (.leaf value))) false entries

/-- A header defines a table that is new or was passed through by other headers. -/
def define (entries : Entries) (path : List String) (key : String) : Option Entries :=
  edit false path (fun _ table =>
    match Table.find? table key with
    | none => some (Table.insert table key (.table false false []))
    | some (.table true false inner) => some (Table.insert table key (.table false false inner))
    | some _ => none) false entries

/-- A header in double brackets adds one table to those of its name. -/
def append (entries : Entries) (path : List String) (key : String) : Option Entries :=
  edit false path (fun _ table =>
    match Table.find? table key with
    | none => some (Table.insert table key (.tables [] []))
    | some (.tables earlier last) =>
      some (Table.insert table key (.tables (earlier ++ [last]) []))
    | some _ => none) false entries

/-- Sets a key below a header. -/
def assignBelow (entries : Entries) (header path : List String) (key : String)
    (value : Document) : Option Entries :=
  edit false header (fun _ table => assign table path key value) false entries

end Entries

end PluginHost.Toml
