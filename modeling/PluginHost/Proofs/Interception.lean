import PluginHost.Interception
import PluginHost.Proofs.World

/-
This file says what the lists of interceptors and services determine. The interceptors of an
exchange follow from the two lists alone, whatever the world is in which the contracts are read.
-/

namespace PluginHost.Interception

/-- The contract that the interceptors of an exchange have to accept. A service has none when no
enabled one holds its name, when it opts out of the point and when its contract panics. -/
def target? (services : List ExchangerRecord) (key : ViewKey) : Option Contract :=
  match key.1 with
  | none => some .byteStream
  | some name =>
    (services.find? fun record => record.enabled && record.name == name).bind fun record =>
      if key.2 ∈ record.registration.dontIntercept then none
      else record.plugin.face.contract.toOption

/-- An interceptor whose contract panics accepts nothing. -/
def agrees (target : Contract) (record : ExchangerRecord) : Bool :=
  record.plugin.face.contract.toOption.any fun contract => contract.accepts target

/-- The interceptors of an exchange, computed anew from the two lists. -/
def view (interceptors services : List ExchangerRecord) (key : ViewKey) : List ExchangerRecord :=
  match target? services key with
  | none => []
  | some target => interceptors.filter fun record =>
      record.enabled && record.registration.interceptPoint == key.2 && agrees target record

variable {interceptors services : List ExchangerRecord} {point : InterceptPoint}

theorem view_of_none {key : ViewKey} (missing : target? services key = none) :
    view interceptors services key = [] := by
  rw [view, missing]

theorem view_of_some {key : ViewKey} {target : Contract}
    (found : target? services key = some target) :
    view interceptors services key =
      (standingAt interceptors key.2).filter fun record => agrees target record := by
  rw [view, found, standingAt, List.filter_filter]
  exact List.filter_congr fun record _ => Bool.and_comm _ _

/-- Traffic without a service depends on the interceptors alone. -/
theorem view_without_service (interceptors services others : List ExchangerRecord) :
    view interceptors services (none, point) = view interceptors others (none, point) := rfl

/-- Only contracts have been read. -/
abbrev Reads (before after : World) : Prop := World.Grows Call.IsContract before after

theorem readContract_fst (world : World) (record : ExchangerRecord) :
    (readContract world record).1.toOption = record.plugin.face.contract.toOption := by
  change (guardedCall record.name record.plugin.face.contract).toOption = _
  cases record.plugin.face.contract with
  | ok contract => rfl
  | error panic => rfl

theorem readContract_reads (world : World) (record : ExchangerRecord) :
    Reads world (readContract world record).2 :=
  .called world ⟨record.name, rfl⟩ _

theorem accepting_spec (target : Contract) (records : List ExchangerRecord) (world : World) :
    (accepting target records world).1 = records.filter (agrees target) ∧
      Reads world (accepting target records world).2 := by
  induction records generalizing world with
  | nil => exact ⟨rfl, .refl world⟩
  | cons record rest ih =>
      have told := readContract_fst world record
      have reads := readContract_reads world record
      rw [accepting, List.filter_cons, agrees, ← told]
      generalize readContract world record = answer at reads ⊢
      obtain ⟨outcome, next⟩ := answer
      cases outcome with
      | error error =>
          obtain ⟨found, more⟩ := ih (next.report (failureEvent .interceptor record.name "Skipping"
            error))
          simp only [Except.toOption, Option.any_none, Bool.false_eq_true, if_false]
          exact ⟨found, (reads.report _).trans more⟩
      | ok contract =>
          obtain ⟨found, more⟩ := ih next
          simp only [Except.toOption, Option.any_some, found]
          exact ⟨rfl, reads.trans more⟩

/-- What a lookup finds is the view of the two lists. -/
theorem compute_spec (interceptors services : List ExchangerRecord) (service : Option String)
    (point : InterceptPoint) (world : World) :
    (compute interceptors services service point world).1 =
        view interceptors services (service, point) ∧
      Reads world (compute interceptors services service point world).2 := by
  cases service with
  | none =>
      obtain ⟨found, reads⟩ := accepting_spec .byteStream (standingAt interceptors point) world
      have asked : target? services (none, point) = some .byteStream := rfl
      rw [view_of_some asked]
      exact ⟨found, reads⟩
  | some name =>
      cases held : service? services name with
      | none =>
          have missing : target? services (some name, point) = none := by
            rw [service?] at held
            simp [target?, held]
          rw [view_of_none missing, compute, held]
          exact ⟨rfl, (World.Grows.refl world).report _⟩
      | some record =>
          have asked : target? services (some name, point) =
              if point ∈ record.registration.dontIntercept then none
              else record.plugin.face.contract.toOption := by
            rw [service?] at held
            simp [target?, held]
          rw [compute, held]
          dsimp only
          rw [applicable]
          by_cases out : point ∈ record.registration.dontIntercept
          · rw [if_pos out] at asked
            rw [view_of_none asked, if_pos (List.contains_iff_mem.mpr out)]
            exact ⟨rfl, .refl world⟩
          · have told := readContract_fst world record
            have reads := readContract_reads world record
            rw [if_neg out, ← told] at asked
            rw [if_neg fun opted => out (List.contains_iff_mem.mp opted)]
            generalize readContract world record = answer at asked reads ⊢
            obtain ⟨outcome, next⟩ := answer
            cases outcome with
            | error error =>
                rw [view_of_none asked]
                exact ⟨rfl, reads.report _⟩
            | ok target =>
                obtain ⟨found, more⟩ := accepting_spec target (standingAt interceptors point) next
                rw [view_of_some asked]
                exact ⟨found, reads.trans more⟩

end PluginHost.Interception
