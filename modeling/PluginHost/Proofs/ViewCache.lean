import PluginHost.Interception
import Mathlib.Data.List.Nodup

/-
This file says what a cache of interceptor lists keeps: each of its entries has what was asked of
it, and no key has two entries.
-/

namespace PluginHost.ViewCache

variable {ρ σ : Type} {cache : ViewCache ρ} {holds : ViewKey → List ρ → Prop}

def keys (cache : ViewCache ρ) : List ViewKey := cache.views.map Prod.fst

/-- Each kept list stands under a key for which it holds. -/
def Keeps (holds : ViewKey → List ρ → Prop) (cache : ViewCache ρ) : Prop :=
  ∀ entry ∈ cache.views, holds entry.1 entry.2

theorem size_eq (cache : ViewCache ρ) : cache.size = cache.keys.length := by
  rw [size, keys, List.length_map]

theorem mem_of_view? {key : ViewKey} {view : List ρ} (found : cache.view? key = some view) :
    (key, view) ∈ cache.views := by
  obtain ⟨before, after, split, -⟩ := List.lookup_eq_some_iff.mp found
  rw [split]
  exact List.mem_append_right before List.mem_cons_self

theorem view?_eq_none_iff {key : ViewKey} : cache.view? key = none ↔ key ∉ cache.keys := by
  simp only [view?, List.lookup_eq_none_iff, bne_iff_ne, keys, List.mem_map, not_exists, not_and]
  exact forall₂_congr fun entry _ => ne_comm

/-- A second list for a key is never taken in. -/
theorem store_known {key : ViewKey} {earlier : List ρ} (known : cache.view? key = some earlier)
    (view : List ρ) : cache.store cache.generation key view = (earlier, cache) := by
  simp [store, known]

theorem store_new {key : ViewKey} (new : cache.view? key = none) (view : List ρ) :
    cache.store cache.generation key view =
      (view, { cache with views := cache.views ++ [(key, view)] }) := by
  simp [store, new]

theorem store_late {seen : UInt64} (late : cache.generation ≠ seen) (key : ViewKey)
    (view : List ρ) : cache.store seen key view = (view, cache) := by
  rw [store, if_pos late]

theorem store_generation (cache : ViewCache ρ) (seen : UInt64) (key : ViewKey) (view : List ρ) :
    (cache.store seen key view).2.generation = cache.generation := by
  unfold store
  split
  · rfl
  · split <;> rfl

/-- A list that is kept is the answer in place of a new one. -/
theorem store_fst (cache : ViewCache ρ) (key : ViewKey) (view : List ρ) :
    (cache.store cache.generation key view).1 = (cache.view? key).getD view := by
  cases known : cache.view? key with
  | some earlier =>
      rw [store_known known]
      rfl
  | none =>
      rw [store_new known]
      rfl

theorem view?_store (cache : ViewCache ρ) (key : ViewKey) (view : List ρ) (other : ViewKey) :
    (cache.store cache.generation key view).2.view? other =
      (cache.view? other).or (if other = key then some view else none) := by
  cases known : cache.view? key with
  | some earlier =>
      rw [store_known known]
      split
      · rename_i same
        rw [same, known]
        rfl
      · exact Option.or_none.symm
  | none =>
      rw [store_new known, view?, List.lookup_append, view?]
      by_cases same : other = key
      · simp [same]
      · simp [List.lookup_cons, same, beq_eq_false_iff_ne.mpr same]

namespace Keeps

theorem empty (holds : ViewKey → List ρ → Prop) (generation : UInt64) :
    Keeps holds ⟨generation, []⟩ := fun _ absurd => by cases absurd

theorem invalidate (holds : ViewKey → List ρ → Prop) (cache : ViewCache ρ) :
    Keeps holds cache.invalidate := empty holds _

theorem imp {also : ViewKey → List ρ → Prop} (keeps : Keeps holds cache)
    (weaker : ∀ key view, holds key view → also key view) : Keeps also cache :=
  fun entry member => weaker entry.1 entry.2 (keeps entry member)

theorem view? (keeps : Keeps holds cache) {key : ViewKey} {view : List ρ}
    (found : cache.view? key = some view) : holds key view :=
  keeps (key, view) (mem_of_view? found)

/-- What is stored has to be right only when it comes in time. -/
theorem store (keeps : Keeps holds cache) {seen : UInt64} {key : ViewKey} {view : List ρ}
    (right : cache.generation = seen → holds key view) :
    Keeps holds (cache.store seen key view).2 := by
  by_cases late : cache.generation ≠ seen
  · rw [store_late late]
    exact keeps
  · have intime : cache.generation = seen := not_not.mp late
    subst intime
    cases known : cache.view? key with
    | some earlier =>
        rw [store_known known]
        exact keeps
    | none =>
        rw [store_new known]
        intro entry member
        rcases List.mem_append.mp member with before | here
        · exact keeps entry before
        · rw [List.mem_singleton.mp here]
          exact right rfl

/-- The answer is the new list or one that is kept. -/
theorem store_answer (keeps : Keeps holds cache) (seen : UInt64) {key : ViewKey} {view : List ρ}
    (right : holds key view) : holds key (cache.store seen key view).1 := by
  by_cases late : cache.generation ≠ seen
  · rw [store_late late]
    exact right
  · have intime : cache.generation = seen := not_not.mp late
    subst intime
    cases known : cache.view? key with
    | some earlier =>
        rw [store_known known]
        exact keeps.view? known
    | none =>
        rw [store_new known]
        exact right

end Keeps

/-- A lookup that nothing interrupts adds its key if it is new. -/
theorem keys_store (cache : ViewCache ρ) (key : ViewKey) (view : List ρ) :
    (cache.store cache.generation key view).2.keys =
      if key ∈ cache.keys then cache.keys else cache.keys ++ [key] := by
  cases known : cache.view? key with
  | some earlier =>
      have member : key ∈ cache.keys := List.mem_map_of_mem (mem_of_view? known)
      rw [store_known known, if_pos member]
  | none =>
      rw [store_new known, if_neg (view?_eq_none_iff.mp known)]
      simp [keys]

/-- An undisturbed lookup asks the cache and the computation in turn. -/
theorem serve_undisturbed (cache : ViewCache ρ) (key : ViewKey) (rest : σ)
    (compute : σ → List ρ × σ) :
    let served := cache.serve key rest fun cache rest =>
      ((compute rest).1, cache, (compute rest).2)
    (served.view, served.cache) =
        cache.store cache.generation key (compute rest).1 ∧ served.kept = true ∧
      (served.rest = rest ∨ served.rest = (compute rest).2) := by
  intro served
  cases known : cache.view? key with
  | some view =>
      have hit : served = ⟨view, false, true, cache, rest⟩ := by
        simp only [served, serve, known]
      rw [hit, store_known known]
      exact ⟨rfl, rfl, .inl rfl⟩
  | none =>
      have miss : served = ⟨(cache.store cache.generation key (compute rest).1).1, true,
          cache.generation == cache.generation,
          (cache.store cache.generation key (compute rest).1).2, (compute rest).2⟩ := by
        simp only [served, serve, known]
      rw [miss]
      exact ⟨rfl, beq_self_eq_true _, .inr rfl⟩

end PluginHost.ViewCache
