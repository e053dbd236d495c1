import PluginHost.Proofs.Registry.Visits

/-
This file says what the calls of a host do to the assembly of its registry. The first call that
needs an assembly makes it, and no call makes a second one.
-/

namespace PluginHost.Registry

/-- The calls that a registry offers to everyone. What an assembly settles can be read in several
ways, and `settled` stands for all of them. -/
inductive PublicCall where
  | config
  | cachedViews
  | settled
  | authenticator (name : String)
  | services
  | interceptors
  | interceptorsFor (service : Option String) (point : InterceptPoint)
  | addService (record : ExchangerRecord)
  | addInterceptor (record : ExchangerRecord)
  | removeServices (selects : Selection)
  | removeInterceptors (selects : Selection)

namespace PublicCall

/-- The configuration and the size of the cache can be read without an assembly. -/
def assembles : PublicCall → Bool
  | config => false
  | cachedViews => false
  | _ => true

/-- What a call leaves of the registry. -/
def after (registry : Registry) : PublicCall → Registry
  | config => registry
  | cachedViews => registry
  | settled => registry.assembled
  | authenticator name => (registry.authenticator name).2
  | services => registry.enabledServices.2
  | interceptors => registry.enabledInterceptors.2
  | interceptorsFor service point => (registry.interceptorsFor service point).2
  | addService record => registry.addService record
  | addInterceptor record => registry.addInterceptor record
  | removeServices selects => (registry.removeServices selects).2
  | removeInterceptors selects => (registry.removeInterceptors selects).2

end PublicCall

def called (registry : Registry) (calls : List PublicCall) : Registry :=
  calls.foldl PublicCall.after registry

variable {registry : Registry}

theorem authenticator_snd (registry : Registry) (name : String) :
    (registry.authenticator name).2 = registry.assembled := by
  unfold authenticator assembled
  dsimp only
  split <;> rfl

/-- A call that needs an assembly finds it made. -/
theorem after_assembled {call : PublicCall} (assembles : call.assembles = true)
    (registry : Registry) : call.after registry.assembled = call.after registry := by
  have twice := assembled_eq registry.assembled_present
  cases call with
  | config => cases assembles
  | cachedViews => cases assembles
  | settled => exact twice
  | authenticator name =>
      rw [PublicCall.after, PublicCall.after, authenticator_snd, authenticator_snd, twice]
  | services => exact twice
  | interceptors => exact twice
  | interceptorsFor service point =>
      simp only [PublicCall.after, Registry.interceptorsFor, lookUp, twice]
  | addService record => simp only [PublicCall.after, Registry.addService, twice]
  | addInterceptor record => simp only [PublicCall.after, Registry.addInterceptor, twice]
  | removeServices selects => simp only [PublicCall.after, Registry.removeServices, twice]
  | removeInterceptors selects => simp only [PublicCall.after, Registry.removeInterceptors, twice]

theorem after_idle {call : PublicCall} (idle : call.assembles = false) (registry : Registry) :
    call.after registry = registry := by
  cases call with
  | config => rfl
  | cachedViews => rfl
  | _ => cases idle

/-- Once a registry is assembled, its assembly stays, and a call reads contracts at most. -/
theorem after_keeps (present : registry.assembly.isSome = true) (call : PublicCall) :
    (call.after registry).assembly = registry.assembly ∧
      Interception.Reads registry.world (call.after registry).world := by
  have same := assembled_eq present
  cases call with
  | config => exact ⟨rfl, .refl _⟩
  | cachedViews => exact ⟨rfl, .refl _⟩
  | settled =>
      rw [PublicCall.after, same]
      exact ⟨rfl, .refl _⟩
  | authenticator name =>
      rw [PublicCall.after, authenticator_snd, same]
      exact ⟨rfl, .refl _⟩
  | services =>
      rw [PublicCall.after, enabledServices, same]
      exact ⟨rfl, .refl _⟩
  | interceptors =>
      rw [PublicCall.after, enabledInterceptors, same]
      exact ⟨rfl, .refl _⟩
  | interceptorsFor service point =>
      obtain ⟨-, world, reads, after⟩ := lookUp_spec present service point
      rw [PublicCall.after, Registry.interceptorsFor]
      dsimp only
      rw [after]
      exact ⟨rfl, reads⟩
  | addService record =>
      rw [PublicCall.after, Registry.addService, same]
      exact ⟨rfl, .of_journal rfl⟩
  | addInterceptor record =>
      rw [PublicCall.after, Registry.addInterceptor, same]
      exact ⟨rfl, .of_journal rfl⟩
  | removeServices selects =>
      rw [PublicCall.after, Registry.removeServices, same]
      exact ⟨rfl, .refl _⟩
  | removeInterceptors selects =>
      rw [PublicCall.after, Registry.removeInterceptors, same]
      exact ⟨rfl, .refl _⟩

theorem called_keeps (present : registry.assembly.isSome = true) (calls : List PublicCall) :
    (registry.called calls).assembly = registry.assembly ∧
      Interception.Reads registry.world (registry.called calls).world := by
  induction calls generalizing registry with
  | nil => exact ⟨rfl, .refl _⟩
  | cons call rest ih =>
      obtain ⟨stays, reads⟩ := after_keeps present call
      obtain ⟨restStays, restReads⟩ := ih (stays ▸ present)
      exact ⟨restStays.trans stays, reads.trans restReads⟩

/-- Without a call that needs an assembly there is none. -/
theorem called_idle {calls : List PublicCall} (idle : ∀ call ∈ calls, call.assembles = false)
    (registry : Registry) : registry.called calls = registry := by
  induction calls generalizing registry with
  | nil => rfl
  | cons call rest ih =>
      rw [called, List.foldl_cons, after_idle (idle call List.mem_cons_self)]
      exact ih (fun other later => idle other (List.mem_cons_of_mem call later)) registry

/-- However the calls follow one another, the registry is assembled once. -/
theorem called_assembled {calls : List PublicCall}
    (some : ∃ call ∈ calls, call.assembles = true) (registry : Registry) :
    (registry.called calls).assembly = registry.assembled.assembly ∧
      Interception.Reads registry.assembled.world (registry.called calls).world := by
  induction calls generalizing registry with
  | nil =>
      obtain ⟨call, absurd, -⟩ := some
      cases absurd
  | cons call rest ih =>
      cases assembles : call.assembles with
      | true =>
          have first := after_keeps registry.assembled_present call
          rw [after_assembled assembles] at first
          obtain ⟨stays, reads⟩ := first
          obtain ⟨restStays, restReads⟩ :=
            called_keeps (stays ▸ registry.assembled_present) rest
          exact ⟨restStays.trans stays, reads.trans restReads⟩
      | false =>
          have later : ∃ call ∈ rest, call.assembles = true := by
            obtain ⟨other, member, needs⟩ := some
            rcases List.mem_cons.mp member with rfl | behind
            · rw [assembles] at needs
              cases needs
            · exact ⟨other, behind, needs⟩
          rw [called, List.foldl_cons, after_idle assembles]
          exact ih later registry

end PluginHost.Registry
