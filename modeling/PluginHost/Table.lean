/-
This file keeps values under names. A table is ascending in its names when it is built by
`insert` alone, and a name has at most one value in it.
-/

namespace PluginHost

abbrev Table (α : Type) := List (String × α)

namespace Table

variable {α : Type}

def find? (table : Table α) (name : String) : Option α := List.lookup name table

/-- A value already held under the name is replaced. -/
def insert (table : Table α) (name : String) (value : α) : Table α :=
  match table with
  | [] => [(name, value)]
  | (other, held) :: rest =>
    if name = other then (name, value) :: rest
    else if name < other then (name, value) :: (other, held) :: rest
    else (other, held) :: insert rest name value

def erase (table : Table α) (name : String) : Table α :=
  table.filter fun entry => entry.1 != name

def contains (table : Table α) (name : String) : Bool := (table.find? name).isSome

def names (table : Table α) : List String := table.map Prod.fst

/-- Later entries replace earlier ones of the same name. -/
def ofEntries (entries : List (String × α)) : Table α :=
  entries.foldl (fun table entry => insert table entry.1 entry.2) []

@[simp] theorem find?_nil (name : String) : find? ([] : Table α) name = none := rfl

theorem find?_cons (entry : String × α) (rest : Table α) (name : String) :
    find? (entry :: rest) name = if name = entry.1 then some entry.2 else find? rest name := by
  rw [find?, List.lookup_cons]
  by_cases same : name = entry.1
  · simp [same]
  · have differs : (name == entry.1) = false := by simpa using same
    simp [find?, same, differs]

@[simp] theorem find?_insert_self (table : Table α) (name : String) (value : α) :
    find? (insert table name value) name = some value := by
  induction table with
  | nil => simp [insert, find?_cons]
  | cons entry rest inductionHypothesis =>
      obtain ⟨other, held⟩ := entry
      by_cases same : name = other
      · simp [insert, same, find?_cons]
      · by_cases before : name < other
        · simp [insert, same, before, find?_cons]
        · simp [insert, same, before, find?_cons, inductionHypothesis]

theorem find?_insert_of_ne (table : Table α) {name other : String} (value : α)
    (differs : other ≠ name) : find? (insert table name value) other = find? table other := by
  induction table with
  | nil => simp [insert, find?_cons, differs]
  | cons entry rest inductionHypothesis =>
      obtain ⟨key, held⟩ := entry
      by_cases same : name = key
      · subst same
        simp [insert, find?_cons, differs]
      · by_cases before : name < key
        · simp [insert, same, before, find?_cons, differs]
        · simp [insert, same, before, find?_cons, inductionHypothesis]

end Table

end PluginHost
