import Mathlib.Data.List.Basic

/-
This file says what the success of several steps tells about each of them.
-/

namespace PluginHost

section

variable {ε α β : Type} {first : Except ε α} {result : β}

/-- Two steps succeed when each of them does. -/
theorem ok_of_bind {next : α → Except ε β} (done : first.bind next = .ok result) :
    ∃ value, first = .ok value ∧ next value = .ok result := by
  cases first with
  | error problem => cases done
  | ok value => exact ⟨value, rfl, done⟩

theorem ok_of_map {f : α → β} (done : first.map f = .ok result) :
    ∃ value, first = .ok value ∧ f value = result := by
  cases first with
  | error problem => cases done
  | ok value =>
      cases done
      exact ⟨value, rfl, rfl⟩

end

section

variable {ε α β γ : Type} {step : α → γ → Except ε α} {entries : List γ} {initial result : α}

theorem ok_of_foldlM_cons {entry : γ} (done : (entry :: entries).foldlM step initial = .ok result) :
    ∃ next, step initial entry = .ok next ∧ entries.foldlM step next = .ok result := by
  rw [List.foldlM_cons] at done
  exact ok_of_bind done

/-- Steps that always succeed do so together. -/
theorem foldlM_total (total : ∀ value, ∀ entry ∈ entries, ∃ next, step value entry = .ok next) :
    ∃ result, entries.foldlM step initial = .ok result := by
  induction entries generalizing initial with
  | nil => exact ⟨initial, rfl⟩
  | cons entry rest ih =>
      obtain ⟨next, taken⟩ := total initial entry List.mem_cons_self
      rw [List.foldlM_cons, taken]
      exact ih fun value other member => total value other (List.mem_cons_of_mem entry member)

/-- Every entry was taken. -/
theorem ok_of_mem_foldlM (done : entries.foldlM step initial = .ok result) {entry : γ}
    (member : entry ∈ entries) : ∃ value next, step value entry = .ok next := by
  induction entries generalizing initial with
  | nil => cases member
  | cons other rest ih =>
      obtain ⟨next, taken, later⟩ := ok_of_foldlM_cons done
      rcases List.mem_cons.mp member with rfl | behind
      · exact ⟨initial, next, taken⟩
      · exact ih later behind

/-- What no entry changes stays as it was. -/
theorem foldlM_keeps (aspect : α → β)
    (keeps : ∀ entry ∈ entries, ∀ value next, step value entry = .ok next →
      aspect next = aspect value)
    (done : entries.foldlM step initial = .ok result) : aspect result = aspect initial := by
  induction entries generalizing initial with
  | nil =>
      cases done
      rfl
  | cons entry rest ih =>
      obtain ⟨next, taken, later⟩ := ok_of_foldlM_cons done
      have first := keeps entry List.mem_cons_self initial next taken
      rw [ih (fun other member => keeps other (List.mem_cons_of_mem entry member)) later, first]

end

end PluginHost
