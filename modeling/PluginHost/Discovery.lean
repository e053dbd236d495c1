import PluginHost.Plugin

/-
This file gathers candidates. A catalogue holds each class once.
-/

namespace PluginHost

/-- A discovery lists candidates by category; a listing may be wrong about the category. -/
abbrev Discovery := Category → List Candidate

/-- The candidates stand in the order of their arrival. -/
structure Catalogue where
  candidates : List Candidate := []

namespace Catalogue

def hasClass (catalogue : Catalogue) (className : String) : Bool :=
  catalogue.candidates.any fun known => known.descriptor.className == className

def foundTwice (candidate : Candidate) : Log.Event where
  level := .warn
  target := "tessera_core::discovery"
  message := "Implementation discovered twice, keeping the first descriptor"
  fields := [("class", .shown candidate.descriptor.className),
    ("plugin", .quoted candidate.name)]

/-- A class that is already known is left out. -/
def add (catalogue : Catalogue) (candidate : Candidate) : Catalogue :=
  if catalogue.hasClass candidate.descriptor.className then catalogue
  else ⟨catalogue.candidates ++ [candidate]⟩

def addAll (catalogue : Catalogue) (candidates : List Candidate) : Catalogue :=
  candidates.foldl add catalogue

/-- One warning stands for each candidate that is left out. -/
def warnings (catalogue : Catalogue) : List Candidate → List Log.Event
  | [] => []
  | candidate :: rest =>
    (if catalogue.hasClass candidate.descriptor.className then [foundTwice candidate] else []) ++
      (catalogue.add candidate).warnings rest

/-- Candidates are linked in no order of their own and are sorted by class first. -/
def sortByClass (candidates : List Candidate) : List Candidate :=
  candidates.mergeSort fun first second =>
    first.descriptor.className ≤ second.descriptor.className

def ofLinked (linked : List Candidate) : Catalogue :=
  ({} : Catalogue).addAll (sortByClass linked)

/-- The candidates of one category, in the order of their arrival. -/
def discovery (catalogue : Catalogue) : Discovery := fun category =>
  catalogue.candidates.filter fun candidate => candidate.descriptor.category == category

end Catalogue

end PluginHost
