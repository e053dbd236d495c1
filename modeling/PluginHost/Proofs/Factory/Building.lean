import PluginHost.Factory
import PluginHost.Proofs.Table

/-
This file says what building plugins yields and how it changes the shared tables. What is yielded
depends on the candidates and the sections alone.
-/

namespace PluginHost

variable {ι : Type}

/-- What the constructor of a compatible candidate makes, if it makes something. -/
def Candidate.made? (candidate : Candidate) : Option Instance :=
  if isCompatible candidate.descriptor.apiVersion then
    match candidate.constructor with
    | some (.done made) => some made
    | _ => none
  else none

theorem Candidate.made?_eq_some_iff {candidate : Candidate} {made : Instance} :
    candidate.made? = some made ↔
      isCompatible candidate.descriptor.apiVersion = true ∧
        candidate.constructor = some (.done made) := by
  rw [made?]
  cases isCompatible candidate.descriptor.apiVersion with
  | false => simp
  | true =>
      simp only [if_true, true_and]
      split
      · simp [*]
      · rename_i never
        simp only [reduceCtorEq, false_iff]
        exact never made

namespace Kind

/-- What an instance says of its type when it is built as a plugin of the kind. -/
def reported (kind : Kind ι) (made : Instance) : Except Panic (Option TypeInfo) :=
  match kind.category, made with
  | .provider, .provider provider => provider.producedType.map some
  | _, _ => .ok none

theorem reported_of_ne {kind : Kind ι} (other : kind.category ≠ .provider) (made : Instance) :
    kind.reported made = .ok none := by
  unfold reported
  split
  · exact absurd ‹_› other
  · rfl

/-- The plugin that a candidate yields. -/
def face? (kind : Kind ι) (candidate : Candidate) : Option ι :=
  candidate.made?.bind fun made =>
    match kind.reported made with
    | .ok _ => kind.select made
    | .error _ => none

/-- The type that a candidate has reported once it was built. -/
def reportedType? (kind : Kind ι) (candidate : Candidate) : Option TypeInfo :=
  candidate.made?.bind fun made =>
    match kind.reported made with
    | .ok type => type
    | .error _ => none

theorem face?_spec {kind : Kind ι} {candidate : Candidate} {face : ι}
    (faced : kind.face? candidate = some face) :
    ∃ made, candidate.made? = some made ∧ kind.select made = some face := by
  rw [face?, Option.bind_eq_some_iff] at faced
  obtain ⟨made, constructed, chosen⟩ := faced
  refine ⟨made, constructed, ?_⟩
  cases said : kind.reported made with
  | ok type => rwa [said] at chosen
  | error panic =>
      rw [said] at chosen
      cases chosen

theorem face?_of_made {kind : Kind ι} {candidate : Candidate} {made : Instance}
    (makes : candidate.made? = some made) :
    kind.face? candidate = (kind.reported made).toOption.bind fun _ => kind.select made := by
  rw [face?, makes, Option.bind_some]
  cases kind.reported made <;> rfl

theorem reported_provider (provider : Provider) :
    Kind.providers.reported (.provider provider) = provider.producedType.map some := rfl

theorem providers_reportedType?_iff {candidate : Candidate} {type : TypeInfo} :
    Kind.providers.reportedType? candidate = some type ↔
      ∃ provider, candidate.made? = some (.provider provider) ∧
        provider.producedType = .ok type := by
  rw [reportedType?, Option.bind_eq_some_iff]
  constructor
  · rintro ⟨made, constructed, said⟩
    cases made with
    | provider provider =>
        refine ⟨provider, constructed, ?_⟩
        rw [reported_provider] at said
        cases told : provider.producedType with
        | error panic => simp [told, Except.map] at said
        | ok answer => simpa [told, Except.map] using said
    | _ => cases said
  · rintro ⟨provider, constructed, told⟩
    exact ⟨_, constructed, by simp [reported_provider, told, Except.map]⟩

/-- A provider is built when it reports a type. -/
theorem providers_face?_iff {candidate : Candidate} {provider : Provider} :
    Kind.providers.face? candidate = some provider ↔
      candidate.made? = some (.provider provider) ∧ ∃ type, provider.producedType = .ok type := by
  rw [face?, Option.bind_eq_some_iff]
  constructor
  · rintro ⟨made, constructed, chosen⟩
    cases made with
    | provider face =>
        rw [reported_provider] at chosen
        cases told : face.producedType with
        | error panic => simp [told, Except.map] at chosen
        | ok type =>
            simp only [told, Except.map] at chosen
            cases chosen
            exact ⟨constructed, type, told⟩
    | _ => cases chosen
  · rintro ⟨constructed, type, told⟩
    refine ⟨_, constructed, ?_⟩
    rw [reported_provider, told]
    rfl

/-- Only providers are asked for a type. -/
theorem face?_of_ne {kind : Kind ι} (other : kind.category ≠ .provider) (candidate : Candidate) :
    kind.face? candidate = candidate.made?.bind kind.select := by
  rw [face?]
  congr 1
  funext made
  rw [reported_of_ne other]

end Kind

namespace Factory

/-- How a step of the factory changes the shared tables: the types and the records it adds. -/
structure Adds (before after : Factory) (types : List (String × TypeInfo))
    (records : List (String × Record (Live Plugin))) : Prop where
  sections : after.sections = before.sections
  pending : after.pending = before.pending
  types : after.types = before.types.extend types
  records : after.records = before.records.extend records

namespace Adds

variable {before between after : Factory} {types moreTypes : List (String × TypeInfo)}
  {records moreRecords : List (String × Record (Live Plugin))}

theorem trans (first : Adds before between types records)
    (second : Adds between after moreTypes moreRecords) :
    Adds before after (types ++ moreTypes) (records ++ moreRecords) where
  sections := second.sections.trans first.sections
  pending := second.pending.trans first.pending
  types := by rw [second.types, first.types, Table.extend_append]
  records := by rw [second.records, first.records, Table.extend_append]

theorem of_world {factory : Factory} {world : World}
    (adds : Adds { factory with world := world } after types records) :
    Adds factory after types records :=
  ⟨adds.sections, adds.pending, adds.types, adds.records⟩

theorem report (adds : Adds before after types records) (events : List Log.Event) :
    Adds before (after.report events) types records :=
  ⟨adds.sections, adds.pending, adds.types, adds.records⟩

end Adds

theorem recordType_adds (factory : Factory) (kind : Kind ι) (descriptor : Descriptor)
    (made : Instance) :
    (factory.recordType kind descriptor made).1.toOption =
        (kind.reported made).toOption.map (fun _ => ()) ∧
      Adds factory (factory.recordType kind descriptor made).2
        ((kind.reported made).toOption.join.map fun type => (descriptor.name, type)).toList
        [] := by
  by_cases provides : kind.category = .provider
  · cases made with
    | provider provider =>
        unfold recordType Kind.reported
        rw [provides]
        dsimp only
        cases provider.producedType with
        | ok type => exact ⟨rfl, rfl, rfl, rfl, rfl⟩
        | error panic => exact ⟨rfl, rfl, rfl, rfl, rfl⟩
    | _ =>
        unfold recordType Kind.reported
        rw [provides]
        exact ⟨rfl, rfl, rfl, rfl, rfl⟩
  · rw [Kind.reported_of_ne provides]
    unfold recordType
    split
    · exact absurd ‹_› provides
    · exact ⟨rfl, rfl, rfl, rfl, rfl⟩

/-- The constructor is called when the candidate is compatible and has one. -/
def summon (factory : Factory) (candidate : Candidate) : Factory :=
  if isCompatible candidate.descriptor.apiVersion && candidate.constructor.isSome then
    factory.called (.construct candidate.descriptor.name) candidate.announced
  else factory

/-- An instance is given its place before it is asked for anything. -/
def house (factory : Factory) (candidate : Candidate) (made : Instance) : Factory :=
  { factory with world :=
      (factory.world.enroll candidate.descriptor.name made.plugin made).2 }

/-- What a provider says when its construction asks it for its type. -/
def ask (factory : Factory) (kind : Kind ι) (candidate : Candidate) (made : Instance) :
    Except PluginError Unit × Factory :=
  ((factory.summon candidate).house candidate made).recordType kind candidate.descriptor made

/-- The ways in which a construction ends. -/
inductive Construction (factory : Factory) (kind : Kind ι) (candidate : Candidate) :
    Except PluginError (Live ι) × Factory → Prop
  | unmade (error : PluginError) (nothing : candidate.made? = none) :
      Construction factory kind candidate (.error error, factory.summon candidate)
  | untyped {made : Instance} (makes : candidate.made? = some made) {error : PluginError}
      {after : Factory} (asked : factory.ask kind candidate made = (.error error, after)) :
      Construction factory kind candidate (.error error, after)
  | misfit {made : Instance} (makes : candidate.made? = some made) {after : Factory}
      (asked : factory.ask kind candidate made = (.ok (), after))
      (unselected : kind.select made = none) :
      Construction factory kind candidate
        (.error (wrongCategory candidate.descriptor made.category kind.category), after)
  | built {made : Instance} (makes : candidate.made? = some made) {after : Factory}
      (asked : factory.ask kind candidate made = (.ok (), after)) {face : ι}
      (selected : kind.select made = some face) :
      Construction factory kind candidate (.ok ⟨factory.world.residents.length, face⟩, after)

theorem construct_ends (factory : Factory) (kind : Kind ι) (candidate : Candidate) :
    Construction factory kind candidate (factory.construct kind candidate) := by
  have unmade (error : PluginError) {after : Factory} (nothing : candidate.made? = none)
      (same : factory.summon candidate = after) :
      Construction factory kind candidate (.error error, after) := same ▸ .unmade error nothing
  unfold construct
  dsimp only
  cases compatible : isCompatible candidate.descriptor.apiVersion with
  | false => exact unmade _ (by simp [Candidate.made?, compatible]) (by simp [summon, compatible])
  | true =>
      cases constructs : candidate.constructor with
      | none =>
          exact unmade _ (by simp [Candidate.made?, constructs]) (by simp [summon, constructs])
      | some outcome =>
          have summoned : factory.summon candidate =
              factory.called (.construct candidate.descriptor.name) candidate.announced := by
            simp [summon, compatible, constructs]
          cases outcome with
          | panicked panic => exact unmade _ (by simp [Candidate.made?, constructs]) summoned
          | failed error => exact unmade _ (by simp [Candidate.made?, constructs]) summoned
          | done made =>
              have makes := Candidate.made?_eq_some_iff.mpr ⟨compatible, constructs⟩
              obtain ⟨outcome, after, asked⟩ : ∃ outcome after,
                  factory.ask kind candidate made = (outcome, after) := ⟨_, _, rfl⟩
              have told := asked
              rw [ask, summoned, house] at told
              simp only [World.enroll] at told ⊢
              rw [told]
              cases outcome with
              | error error => exact .untyped makes asked
              | ok done =>
                  cases selected : kind.select made with
                  | none => exact .misfit makes asked selected
                  | some face => exact .built makes asked selected

theorem summon_adds (factory : Factory) (candidate : Candidate) :
    Adds factory (factory.summon candidate) [] [] := by
  unfold summon
  split
  · exact ⟨rfl, rfl, rfl, rfl⟩
  · exact ⟨rfl, rfl, rfl, rfl⟩

theorem ask_adds {factory after : Factory} {kind : Kind ι} {candidate : Candidate}
    {made : Instance} {outcome : Except PluginError Unit} (makes : candidate.made? = some made)
    (asked : factory.ask kind candidate made = (outcome, after)) :
    outcome.toOption = (kind.reported made).toOption.map (fun _ => ()) ∧
      Adds factory after
        ((kind.reportedType? candidate).map fun type => (candidate.name, type)).toList [] := by
  obtain ⟨ended, told⟩ := recordType_adds ((factory.summon candidate).house candidate made) kind
    candidate.descriptor made
  rw [← ask, asked] at ended told
  have type : kind.reportedType? candidate = (kind.reported made).toOption.join := by
    rw [Kind.reportedType?, makes, Option.bind_some]
    cases kind.reported made <;> rfl
  rw [type]
  exact ⟨ended, (factory.summon_adds candidate).trans told.of_world⟩

theorem construct_adds (factory : Factory) (kind : Kind ι) (candidate : Candidate) :
    (factory.construct kind candidate).1.toOption.map Live.face = kind.face? candidate ∧
      Adds factory (factory.construct kind candidate).2
        (((kind.reportedType? candidate).map fun type => (candidate.name, type)).toList) [] := by
  have ends := factory.construct_ends kind candidate
  generalize factory.construct kind candidate = answer at ends ⊢
  cases ends with
  | unmade error nothing =>
      rw [Kind.face?, Kind.reportedType?, nothing]
      exact ⟨rfl, factory.summon_adds candidate⟩
  | untyped makes asked =>
      obtain ⟨ended, adds⟩ := ask_adds makes asked
      refine ⟨?_, adds⟩
      rw [Kind.face?_of_made makes, Option.map_eq_none_iff.mp ended.symm]
      rfl
  | misfit makes asked unselected =>
      obtain ⟨ended, adds⟩ := ask_adds makes asked
      refine ⟨?_, adds⟩
      rw [Kind.face?_of_made makes, unselected, Option.bind_fun_none]
      rfl
  | built makes asked selected =>
      obtain ⟨ended, adds⟩ := ask_adds makes asked
      refine ⟨?_, adds⟩
      obtain ⟨type, told, -⟩ := Option.map_eq_some_iff.mp ended.symm
      rw [Kind.face?_of_made makes, told, selected]
      rfl

/-- The entry of a built plugin in the table of records. -/
def entry (kind : Kind ι) (built : Built ι) : String × Record (Live Plugin) :=
  (built.descriptor.className, built.record.erase kind)

theorem register_adds (factory : Factory) (kind : Kind ι) (descriptor : Descriptor)
    (live : Live ι) :
    (factory.register kind descriptor live).1 =
        ⟨descriptor, Record.make descriptor factory.sections live⟩ ∧
      Adds factory (factory.register kind descriptor live).2 []
        [entry kind (factory.register kind descriptor live).1] :=
  ⟨rfl, rfl, rfl, rfl, rfl⟩

/-- What a built plugin is, but for the number of its instance. -/
def offer (built : Built ι) : Descriptor × Record ι :=
  (built.descriptor, built.record.map Live.face)

/-- What building a candidate yields under the sections. -/
def offer? (sections : Sections) (kind : Kind ι) (candidate : Candidate) :
    Option (Descriptor × Record ι) :=
  if sections.enables candidate.descriptor then
    (kind.face? candidate).map fun face =>
      (candidate.descriptor, Record.make candidate.descriptor sections face)
  else none

/-- The type that building a candidate leaves in the table. -/
def typing? (sections : Sections) (kind : Kind ι) (candidate : Candidate) :
    Option (String × TypeInfo) :=
  if sections.enables candidate.descriptor then
    (kind.reportedType? candidate).map fun type => (candidate.name, type)
  else none

theorem offer?_eq_some_iff {sections : Sections} {kind : Kind ι} {candidate : Candidate}
    {offered : Descriptor × Record ι} :
    offer? sections kind candidate = some offered ↔
      sections.enables candidate.descriptor = true ∧ ∃ face, kind.face? candidate = some face ∧
        offered = (candidate.descriptor, Record.make candidate.descriptor sections face) := by
  rw [offer?, Option.ite_none_right_eq_some, Option.map_eq_some_iff]
  simp only [eq_comm]

theorem typing?_eq_some_iff {sections : Sections} {kind : Kind ι} {candidate : Candidate}
    {typed : String × TypeInfo} :
    typing? sections kind candidate = some typed ↔
      sections.enables candidate.descriptor = true ∧ ∃ type,
        kind.reportedType? candidate = some type ∧ typed = (candidate.name, type) := by
  rw [typing?, Option.ite_none_right_eq_some, Option.map_eq_some_iff]
  simp only [eq_comm]

theorem build?_adds (factory : Factory) (kind : Kind ι) (candidate : Candidate) :
    (factory.build? kind candidate).1.map offer = offer? factory.sections kind candidate ∧
      Adds factory (factory.build? kind candidate).2
        (typing? factory.sections kind candidate).toList
        ((factory.build? kind candidate).1.toList.map (entry kind)) := by
  unfold build? offer? typing?
  cases factory.sections.enables candidate.descriptor with
  | false => exact ⟨rfl, rfl, rfl, rfl, rfl⟩
  | true =>
      simp only [Bool.not_true, Bool.false_eq_true, if_false, if_true]
      obtain ⟨face, adds⟩ := construct_adds factory kind candidate
      generalize factory.construct kind candidate = answer at face adds ⊢
      obtain ⟨outcome, after⟩ := answer
      cases outcome with
      | error error =>
          rw [← face]
          exact ⟨rfl, adds.report _⟩
      | ok live =>
          rw [← face]
          obtain ⟨made, registered⟩ := register_adds after kind candidate.descriptor live
          have both := adds.trans registered
          rw [List.append_nil] at both
          rw [adds.sections] at made
          refine ⟨?_, both⟩
          change some (offer (after.register kind candidate.descriptor live).1) = _
          rw [made]
          rfl

theorem filterMap_cons_toList {α β : Type} (f : α → Option β) (first : α) (rest : List α) :
    (first :: rest).filterMap f = (f first).toList ++ rest.filterMap f := by
  rw [List.filterMap_cons]
  cases f first with
  | none => rfl
  | some value => rfl

theorem buildAll_adds (factory : Factory) (kind : Kind ι) (candidates : List Candidate) :
    (factory.buildAll kind candidates).1.map offer =
        candidates.filterMap (offer? factory.sections kind) ∧
      Adds factory (factory.buildAll kind candidates).2
        (candidates.filterMap (typing? factory.sections kind))
        ((factory.buildAll kind candidates).1.map (entry kind)) := by
  induction candidates generalizing factory with
  | nil => exact ⟨rfl, rfl, rfl, rfl, rfl⟩
  | cons candidate rest ih =>
      obtain ⟨offered, adds⟩ := build?_adds factory kind candidate
      obtain ⟨others, moreAdds⟩ := ih (factory.build? kind candidate).2
      rw [adds.sections] at others moreAdds
      have both := adds.trans moreAdds
      rw [buildAll, filterMap_cons_toList, filterMap_cons_toList, ← offered, ← others,
        Option.toList_map]
      dsimp only
      rw [List.map_append, List.map_append]
      exact ⟨rfl, both⟩

theorem instantiate_adds (factory : Factory) (kind : Kind ι) (condition : Condition)
    (candidates : List Candidate) :
    (factory.instantiate kind condition candidates).1.map offer =
        (sortByPriority (admissible kind condition candidates)).filterMap
          (offer? factory.sections kind) ∧
      Adds factory (factory.instantiate kind condition candidates).2
        ((sortByPriority (admissible kind condition candidates)).filterMap
          (typing? factory.sections kind))
        ((factory.instantiate kind condition candidates).1.map (entry kind)) := by
  obtain ⟨offered, adds⟩ := buildAll_adds
    (factory.report (admissionLog kind condition candidates)) kind
    (sortByPriority (admissible kind condition candidates))
  exact ⟨offered, adds.of_world⟩

/-- A provider of the host is taken in as if it had been built from a candidate. -/
theorem adopt?_adds (factory : Factory) (descriptor : Descriptor) (provider : Provider)
    {type : TypeInfo} (compatible : isCompatible descriptor.apiVersion = true)
    (typed : provider.producedType = .ok type) :
    (factory.adopt? descriptor provider).1.map offer =
        offer? factory.sections Kind.providers
          { descriptor := descriptor, constructor := some (.done (.provider provider)) } ∧
      Adds factory (factory.adopt? descriptor provider).2
        (typing? factory.sections Kind.providers
          { descriptor := descriptor, constructor := some (.done (.provider provider)) }).toList
        ((factory.adopt? descriptor provider).1.toList.map (entry Kind.providers)) := by
  unfold adopt? offer? typing?
  cases factory.sections.enables descriptor with
  | false => exact ⟨rfl, rfl, rfl, rfl, rfl⟩
  | true =>
      simp only [Kind.face?, Kind.reportedType?, Candidate.made?, Kind.reported, Kind.providers,
        compatible, typed, if_true, Option.bind_some, Except.map]
      exact ⟨rfl, rfl, rfl, rfl, rfl⟩

end Factory

end PluginHost
