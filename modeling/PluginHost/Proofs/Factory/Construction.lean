import PluginHost.Proofs.Factory.Building

/-
This file says which calls into plugin code are made while plugins are built. The constructors of
enabled candidates are called, and providers are asked for their types.
-/

namespace PluginHost

variable {ι : Type}

namespace JournalEntry

def isConstruction (entry : JournalEntry) : Bool :=
  match entry.call with
  | .construct _ => true
  | _ => false

def isTyping (entry : JournalEntry) : Bool :=
  match entry.call with
  | .producedType _ => true
  | _ => false

end JournalEntry

/-- The call of the constructor, as the journal shows it. -/
def Candidate.birth (candidate : Candidate) : JournalEntry :=
  ⟨.construct candidate.name, candidate.announced⟩

/-- The constructor of the candidate is called once the candidate is admitted. -/
def Sections.summons (sections : Sections) (candidate : Candidate) : Bool :=
  sections.enables candidate.descriptor && isCompatible candidate.descriptor.apiVersion &&
    candidate.constructor.isSome

/-- Between the two worlds constructors were called, those of the list and in its order, and
providers were asked for their types. -/
def Constructs (before after : World) (constructed : List JournalEntry) : Prop :=
  ∃ added, after.journal = before.journal ++ added ∧
    added.filter JournalEntry.isConstruction = constructed ∧
      ∀ entry ∈ added, entry.isConstruction = true ∨ entry.isTyping = true

namespace Constructs

variable {before between after : World} {constructed more : List JournalEntry}

theorem of_journal (same : after.journal = before.journal) : Constructs before after [] :=
  ⟨[], by rw [same, List.append_nil], rfl, fun _ absurd => by cases absurd⟩

theorem trans (first : Constructs before between constructed)
    (second : Constructs between after more) : Constructs before after (constructed ++ more) := by
  obtain ⟨early, earlyAdded, rfl, earlyCalls⟩ := first
  obtain ⟨late, lateAdded, rfl, lateCalls⟩ := second
  refine ⟨early ++ late, by rw [lateAdded, earlyAdded, List.append_assoc],
    List.filter_append .., ?_⟩
  intro entry member
  rcases List.mem_append.mp member with early | late
  · exact earlyCalls entry early
  · exact lateCalls entry late

theorem birth (world : World) (candidate : Candidate) :
    Constructs world (world.called (.construct candidate.name) candidate.announced)
      [candidate.birth] :=
  ⟨[candidate.birth], rfl, rfl, fun entry member => .inl (by
    rw [List.mem_singleton.mp member]
    rfl)⟩

theorem typing (world : World) (provider : String) (shown : Bool) :
    Constructs world (world.called (.producedType provider) shown) [] :=
  ⟨[⟨.producedType provider, shown⟩], rfl, rfl, fun entry member => .inr (by
    rw [List.mem_singleton.mp member]
    rfl)⟩

end Constructs

namespace Factory

theorem recordType_constructs (factory : Factory) (kind : Kind ι) (descriptor : Descriptor)
    (made : Instance) :
    Constructs factory.world (factory.recordType kind descriptor made).2.world [] := by
  unfold recordType
  split
  · rename_i provider _
    dsimp only
    cases provider.producedType with
    | ok type => exact .typing factory.world descriptor.name _
    | error panic => exact .typing factory.world descriptor.name _
  · exact .of_journal rfl

theorem summon_constructs (factory : Factory) (candidate : Candidate) :
    Constructs factory.world (factory.summon candidate).world
      (if isCompatible candidate.descriptor.apiVersion && candidate.constructor.isSome then
        [candidate.birth] else []) := by
  unfold summon
  split
  · exact .birth factory.world candidate
  · exact .of_journal rfl

theorem ask_constructs {factory after : Factory} {kind : Kind ι} {candidate : Candidate}
    {made : Instance} {outcome : Except PluginError Unit}
    (asked : factory.ask kind candidate made = (outcome, after)) :
    Constructs factory.world after.world
      (if isCompatible candidate.descriptor.apiVersion && candidate.constructor.isSome then
        [candidate.birth] else []) := by
  have housed : Constructs (factory.summon candidate).world
      ((factory.summon candidate).house candidate made).world [] := .of_journal rfl
  have told := recordType_constructs ((factory.summon candidate).house candidate made) kind
    candidate.descriptor made
  rw [← ask, asked] at told
  have all := ((factory.summon_constructs candidate).trans housed).trans told
  rwa [List.append_nil, List.append_nil] at all

theorem construct_constructs (factory : Factory) (kind : Kind ι) (candidate : Candidate) :
    Constructs factory.world (factory.construct kind candidate).2.world
      (if isCompatible candidate.descriptor.apiVersion && candidate.constructor.isSome then
        [candidate.birth] else []) := by
  have ends := factory.construct_ends kind candidate
  generalize factory.construct kind candidate = answer at ends ⊢
  cases ends with
  | unmade error nothing => exact factory.summon_constructs candidate
  | untyped makes asked => exact ask_constructs asked
  | misfit makes asked unselected => exact ask_constructs asked
  | built makes asked selected => exact ask_constructs asked

theorem build?_constructs (factory : Factory) (kind : Kind ι) (candidate : Candidate) :
    Constructs factory.world (factory.build? kind candidate).2.world
      (if factory.sections.summons candidate then [candidate.birth] else []) := by
  unfold build? Sections.summons
  cases factory.sections.enables candidate.descriptor with
  | false => exact .of_journal rfl
  | true =>
      simp only [Bool.not_true, Bool.false_eq_true, if_false, Bool.true_and]
      have constructs := construct_constructs factory kind candidate
      generalize factory.construct kind candidate = answer at constructs ⊢
      obtain ⟨outcome, next⟩ := answer
      cases outcome with
      | error error => exact constructs
      | ok live => exact constructs

/-- The constructors are called in the order in which the candidates stand. -/
theorem buildAll_constructs (factory : Factory) (kind : Kind ι) (candidates : List Candidate) :
    Constructs factory.world (factory.buildAll kind candidates).2.world
      ((candidates.filter factory.sections.summons).map Candidate.birth) := by
  induction candidates generalizing factory with
  | nil => exact .of_journal rfl
  | cons candidate rest ih =>
      have first := build?_constructs factory kind candidate
      have others := ih (factory.build? kind candidate).2
      rw [(build?_adds factory kind candidate).2.sections] at others
      have both := first.trans others
      rw [List.filter_cons]
      cases summoned : factory.sections.summons candidate with
      | true =>
          rw [summoned] at both
          exact both
      | false =>
          rw [summoned] at both
          exact both

theorem instantiate_constructs (factory : Factory) (kind : Kind ι) (condition : Condition)
    (candidates : List Candidate) :
    Constructs factory.world (factory.instantiate kind condition candidates).2.world
      (((sortByPriority (admissible kind condition candidates)).filter
        factory.sections.summons).map Candidate.birth) :=
  buildAll_constructs (factory.report (admissionLog kind condition candidates)) kind _

/-- The host does not construct its own providers, it only asks them for their types. -/
theorem adopt?_constructs (factory : Factory) (descriptor : Descriptor) (provider : Provider) :
    Constructs factory.world (factory.adopt? descriptor provider).2.world [] := by
  unfold adopt?
  cases factory.sections.enables descriptor with
  | false => exact .of_journal rfl
  | true => exact .typing _ descriptor.name _

end Factory

end PluginHost
