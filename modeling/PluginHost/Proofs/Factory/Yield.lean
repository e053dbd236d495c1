import PluginHost.Proofs.Factory.Building
import Mathlib.Data.List.Forall2

/-
This file relates a built plugin to the candidate it was built from.
-/

namespace PluginHost

variable {ι : Type}

def Built.className (built : Built ι) : String := built.descriptor.className

def Candidate.className (candidate : Candidate) : String := candidate.descriptor.className

/-- The plugin was built from the candidate under the sections. -/
structure BuiltFrom (sections : Sections) (kind : Kind ι) (candidate : Candidate)
    (built : Built ι) : Prop where
  enabled : sections.enables candidate.descriptor = true
  face : kind.face? candidate = some built.record.plugin.face
  descriptor : built.descriptor = candidate.descriptor
  record : built.record.map Live.face =
    Record.make candidate.descriptor sections built.record.plugin.face

namespace BuiltFrom

open Factory (offer offer?)

variable {sections : Sections} {kind : Kind ι} {candidate : Candidate} {plugin : Built ι}
  {built : List (Built ι)} {candidates : List Candidate}

theorem iff_offer : BuiltFrom sections kind candidate plugin ↔
    offer? sections kind candidate = some (offer plugin) := by
  rw [Factory.offer?_eq_some_iff]
  constructor
  · intro yielded
    exact ⟨yielded.enabled, _, yielded.face, Prod.ext yielded.descriptor yielded.record⟩
  · rintro ⟨enabled, face, faced, equal⟩
    obtain ⟨descriptor, record⟩ := Prod.mk.inj equal
    have same : plugin.record.plugin.face = face := congrArg Record.plugin record
    rw [← same] at faced record
    exact ⟨enabled, faced, descriptor, record⟩

theorem name (yielded : BuiltFrom sections kind candidate plugin) :
    plugin.record.name = candidate.name :=
  congrArg Record.name yielded.record

theorem implementation (yielded : BuiltFrom sections kind candidate plugin) :
    plugin.record.implementation = candidate.descriptor.className :=
  congrArg Record.implementation yielded.record

theorem record_enabled (yielded : BuiltFrom sections kind candidate plugin) :
    plugin.record.enabled = true :=
  (congrArg Record.enabled yielded.record).trans yielded.enabled

/-- The built plugins stand in the order of the candidates that yield one. -/
theorem forall₂ (offered : built.map offer = candidates.filterMap (offer? sections kind)) :
    List.Forall₂ (BuiltFrom sections kind)
      (candidates.filter fun candidate => (offer? sections kind candidate).isSome) built := by
  induction candidates generalizing built with
  | nil =>
      rw [List.map_eq_nil_iff.mp offered]
      exact .nil
  | cons candidate rest ih =>
      rw [List.filter_cons]
      cases yielded : offer? sections kind candidate with
      | none =>
          rw [List.filterMap_cons_none yielded] at offered
          exact ih offered
      | some one =>
          rw [List.filterMap_cons_some yielded, List.map_eq_cons_iff] at offered
          obtain ⟨plugin, others, rfl, rfl, othersOffered⟩ := offered
          exact .cons (iff_offer.mpr yielded) (ih othersOffered)

theorem map_eq {α : Type} {paired : List Candidate}
    (yielded : List.Forall₂ (BuiltFrom sections kind) paired built) (before : Candidate → α)
    (after : Built ι → α)
    (agree : ∀ candidate plugin, BuiltFrom sections kind candidate plugin →
      before candidate = after plugin) : paired.map before = built.map after := by
  have equal : List.Forall₂ (· = ·) (paired.map before) (built.map after) := by
    rw [List.forall₂_map_left_iff, List.forall₂_map_right_iff]
    exact yielded.imp agree
  rwa [List.forall₂_eq_eq_eq] at equal

theorem names {paired : List Candidate}
    (yielded : List.Forall₂ (BuiltFrom sections kind) paired built) :
    (built.map Built.record).map Record.name = paired.map Candidate.name := by
  rw [List.map_map]
  exact (map_eq yielded _ _ fun _ _ single => single.name.symm).symm

/-- Only a listed class is built, and once for each listing of it. -/
theorem classes (offered : built.map offer = candidates.filterMap (offer? sections kind)) :
    (built.map Built.className).Sublist (candidates.map Candidate.className) := by
  have same := map_eq (forall₂ offered) Candidate.className Built.className
    fun _ _ single => (congrArg Descriptor.className single.descriptor).symm
  rw [← same]
  exact List.filter_sublist.map Candidate.className

theorem exists_candidate
    (offered : built.map offer = candidates.filterMap (offer? sections kind))
    (member : plugin ∈ built) :
    ∃ candidate ∈ candidates, BuiltFrom sections kind candidate plugin := by
  have listed : offer plugin ∈ candidates.filterMap (offer? sections kind) := by
    rw [← offered]
    exact List.mem_map_of_mem member
  obtain ⟨candidate, candidateIn, yielded⟩ := List.mem_filterMap.mp listed
  exact ⟨candidate, candidateIn, iff_offer.mpr yielded⟩

theorem exists_built (offered : built.map offer = candidates.filterMap (offer? sections kind))
    (member : candidate ∈ candidates) (yields : (offer? sections kind candidate).isSome = true) :
    ∃ plugin ∈ built, BuiltFrom sections kind candidate plugin := by
  obtain ⟨one, yielded⟩ := Option.isSome_iff_exists.mp yields
  have listed : one ∈ built.map offer := by
    rw [offered]
    exact List.mem_filterMap.mpr ⟨candidate, member, yielded⟩
  obtain ⟨plugin, pluginIn, rfl⟩ := List.mem_map.mp listed
  exact ⟨plugin, pluginIn, iff_offer.mpr yielded⟩

/-- Leaving out classes among the built plugins leaves them out among the candidates. -/
theorem offered_filter (keeps : String → Bool)
    (offered : built.map offer = candidates.filterMap (offer? sections kind)) :
    (built.filter fun plugin => keeps plugin.descriptor.className).map offer =
      (candidates.filter fun candidate => keeps candidate.descriptor.className).filterMap
        (offer? sections kind) := by
  induction candidates generalizing built with
  | nil =>
      rw [List.map_eq_nil_iff.mp offered]
      rfl
  | cons candidate rest ih =>
      cases yielded : offer? sections kind candidate with
      | none =>
          rw [List.filterMap_cons_none yielded] at offered
          rw [ih offered, List.filter_cons]
          by_cases kept : keeps candidate.descriptor.className = true
          · rw [if_pos kept, List.filterMap_cons_none yielded]
          · rw [if_neg kept]
      | some one =>
          rw [List.filterMap_cons_some yielded, List.map_eq_cons_iff] at offered
          obtain ⟨plugin, others, rfl, rfl, othersOffered⟩ := offered
          rw [List.filter_cons, List.filter_cons, (iff_offer.mpr yielded).descriptor]
          by_cases kept : keeps candidate.descriptor.className = true
          · rw [if_pos kept, if_pos kept, List.map_cons, List.filterMap_cons_some yielded,
              ih othersOffered]
          · rw [if_neg kept, if_neg kept, ih othersOffered]

end BuiltFrom

end PluginHost
