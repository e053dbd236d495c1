import PluginHost.Proofs.Graph.Bystanders
import PluginHost.Proofs.Registry.Collections
import Mathlib.Logic.Function.Basic

/-
This file takes one listing out of a discovery. If nothing is built from it and it is no candidate
of the validation, every category builds what it has built before.
-/

namespace PluginHost

open Factory (offer? typing? sortByPriority admissible)

variable {ι : Type}

theorem Factory.sortByPriority_filter (keeps : Candidate → Bool) (candidates : List Candidate) :
    sortByPriority (candidates.filter keeps) = (sortByPriority candidates).filter keeps :=
  (sortByPriority_inPriorityOrder _).unique
    ((sortByPriority_inPriorityOrder candidates).filter keeps)

/-- It does not matter whether something is left out that is not picked anyway. -/
theorem filterMap_filter_of_none {α β : Type} {keeps : α → Bool} {pick : α → Option β}
    {list : List α} (unpicked : ∀ x ∈ list, keeps x = false → pick x = none) :
    (list.filter keeps).filterMap pick = list.filterMap pick := by
  rw [List.filterMap_filter]
  apply List.filterMap_congr
  intro x member
  cases kept : keeps x with
  | true => rfl
  | false => exact (unpicked x member kept).symm

/-- Where keys are distinct, the element of a key goes alone. -/
theorem filter_key_ne {α : Type} {key : α → String} {before after : List α} {x : α}
    (once : ((before ++ x :: after).map key).Nodup) :
    (before ++ x :: after).filter (fun other => key other != key x) = before ++ after := by
  rw [List.map_append, List.map_cons, List.nodup_middle, List.nodup_cons, ← List.map_append] at once
  rw [List.filter_append, List.filter_cons_of_neg (by simp), ← List.filter_append,
    List.filter_eq_self]
  intro other member
  rw [bne_iff_ne]
  intro same
  exact once.1 (List.mem_map.mpr ⟨other, member, same⟩)

/-- The ways in which an enabled candidate yields no plugin. -/
inductive Candidate.Fruitless (candidate : Candidate) : Prop
  | incompatible (refused : isCompatible candidate.descriptor.apiVersion = false)
  | unconstructible (absent : candidate.constructor = none)
  | failed (error : PluginError) (ends : candidate.constructor = some (.failed error))
  | panicked (panic : Panic) (ends : candidate.constructor = some (.panicked panic))
  | untyped (provider : Provider) (ends : candidate.constructor = some (.done (.provider provider)))
      (panic : Panic) (thrown : provider.producedType = .error panic)
  | misfit (made : Instance) (ends : candidate.constructor = some (.done made))
      (differs : made.category ≠ candidate.descriptor.category)

namespace Candidate.Fruitless

variable {candidate : Candidate} (fruitless : candidate.Fruitless) {kind : Kind ι}
  (exactly : kind.Exact) (category : candidate.descriptor.category = kind.category)
include fruitless

section
include exactly category

/-- If something is made of a fruitless candidate, it panics when asked for its type or belongs to
another category. -/
theorem unmade {made : Instance} (makes : candidate.made? = some made) :
    (∃ panic, kind.reported made = .error panic) ∨
      kind.select made = none ∧ made.category ≠ kind.category := by
  have unselected (differs : made.category ≠ kind.category) : kind.select made = none := by
    rw [← Option.not_isSome_iff_eq_none, exactly made, beq_iff_eq]
    exact differs
  obtain ⟨compatible, constructed⟩ := Candidate.made?_eq_some_iff.mp makes
  cases fruitless with
  | incompatible refused => rw [refused] at compatible; cases compatible
  | unconstructible absent => rw [absent] at constructed; cases constructed
  | failed error ends => rw [ends] at constructed; cases constructed
  | panicked panic ends => rw [ends] at constructed; cases constructed
  | untyped provider ends panic thrown =>
      rw [ends] at constructed
      cases constructed
      by_cases same : kind.category = .provider
      · refine .inl ⟨panic, ?_⟩
        simp only [Kind.reported, same, thrown, Except.map]
      · exact .inr ⟨unselected (Ne.symm same), Ne.symm same⟩
  | misfit other ends differs =>
      rw [ends] at constructed
      cases constructed
      rw [category] at differs
      exact .inr ⟨unselected differs, differs⟩

theorem offer?_eq_none (sections : Sections) : offer? sections kind candidate = none := by
  rw [Option.eq_none_iff_forall_ne_some]
  intro offered yielded
  obtain ⟨-, face, faced, -⟩ := Factory.offer?_eq_some_iff.mp yielded
  rw [Kind.face?, Option.bind_eq_some_iff] at faced
  obtain ⟨made, makes, chosen⟩ := faced
  rcases fruitless.unmade exactly category makes with ⟨panic, thrown⟩ | ⟨unselected, -⟩
  · rw [thrown] at chosen
    cases chosen
  · split at chosen
    · rw [unselected] at chosen
      cases chosen
    · cases chosen

end

theorem reportedType?_eq_none (provides : candidate.descriptor.category = .provider) :
    Kind.providers.reportedType? candidate = none := by
  rw [Option.eq_none_iff_forall_ne_some]
  intro type said
  obtain ⟨provider, makes, told⟩ := Kind.providers_reportedType?_iff.mp said
  rcases fruitless.unmade Kind.all_exact.1 provides makes with ⟨panic, thrown⟩ | ⟨-, differs⟩
  · rw [Kind.reported_provider, told] at thrown
    cases thrown
  · exact differs rfl

end Candidate.Fruitless

namespace Discovery

/-- The discovery without what it lists of the class under the category. -/
def without (discovery : Discovery) (category : Category) (className : String) : Discovery :=
  Function.update discovery category
    ((discovery category).filter fun candidate => candidate.className != className)

/-- A listing from which nothing is built, and whose name no other listed provider has a type
under. -/
structure Idle (discovery : Discovery) (sections : Sections) (category : Category)
    (candidate : Candidate) : Prop where
  listed : candidate ∈ discovery category
  unbuilt : candidate.descriptor.category = category →
    sections.enables candidate.descriptor = true → candidate.Fruitless
  untyped : category = .provider → Builtin.isReserved candidate.name = false →
    (sections.enables candidate.descriptor &&
      (discovery.types sections).contains candidate.name) = false

variable {discovery : Discovery} {sections : Sections} {category : Category} {candidate : Candidate}

theorem without_self (className : String) : discovery.without category className category =
    (discovery category).filter fun candidate => candidate.className != className :=
  Function.update_self ..

theorem without_of_ne {other : Category} (differs : other ≠ category) (className : String) :
    discovery.without category className other = discovery other :=
  Function.update_of_ne differs ..

theorem providers_without_self (className : String) :
    (discovery.without .provider className).providers =
      discovery.providers.filter fun candidate => candidate.className != className := by
  rw [providers, without_self, List.filter_comm]
  rfl

theorem without_sublist (discovery : Discovery) (category : Category) (className : String)
    (other : Category) :
    (discovery.without category className other).Sublist (discovery other) := by
  by_cases same : other = category
  · subst same
    rw [without_self]
    exact List.filter_sublist
  · rw [without_of_ne same]

theorem Distinct.without (distinct : discovery.Distinct) (category : Category)
    (className : String) : (discovery.without category className).Distinct := by
  have part (other : Category) :=
    (discovery.without_sublist category className other).map Candidate.descriptor
  have listed : (Category.bootOrder.flatMap fun other =>
      (discovery.without category className other).map Candidate.descriptor).Sublist
        (Category.bootOrder.flatMap fun other => (discovery other).map Candidate.descriptor) := by
    generalize Category.bootOrder = categories
    induction categories with
    | nil => exact .refl []
    | cons first rest ih =>
        rw [List.flatMap_cons, List.flatMap_cons]
        exact (part first).append ih
  exact List.Nodup.sublist ((listed.append_left _).map _) distinct

section
variable (distinct : discovery.Distinct) (listed : candidate ∈ discovery category)
include distinct listed

/-- Only the candidate is left out. -/
theorem Distinct.eq_of_dropped {other : Candidate} (member : other ∈ discovery category)
    (dropped : (other.className != candidate.className) = false) : other = candidate :=
  List.inj_on_of_nodup_map (distinct.category category) member listed (by simpa using dropped)

/-- Nothing changes for the validated providers, or the candidate goes from among them. -/
theorem Distinct.providers_without :
    (discovery.without category candidate.className).providers = discovery.providers ∨
      category = .provider ∧ Builtin.isReserved candidate.name = false ∧
        ∃ before after, discovery.providers = before ++ candidate :: after ∧
          (discovery.without category candidate.className).providers = before ++ after := by
  by_cases provides : category = .provider
  · subst provides
    rw [providers_without_self]
    cases reserved : Builtin.isReserved candidate.name with
    | true =>
        left
        rw [List.filter_eq_self]
        intro other member
        by_contra dropped
        obtain ⟨otherListed, free⟩ := mem_providers.mp member
        rw [distinct.eq_of_dropped listed otherListed (Bool.eq_false_iff.mpr dropped),
          reserved] at free
        cases free
    | false =>
        obtain ⟨before, after, split⟩ :=
          List.append_of_mem (mem_providers.mpr ⟨listed, reserved⟩)
        have once : (discovery.providers.map Candidate.className).Nodup :=
          (distinct.category .provider).sublist (List.filter_sublist.map Candidate.className)
        rw [split] at once ⊢
        exact .inr ⟨rfl, rfl, before, after, rfl, filter_key_ne once⟩
  · left
    rw [providers, without_of_ne (Ne.symm provides)]
    rfl

/-- What is picked from the tried providers stays if the candidate is not picked. -/
theorem Distinct.filterMap_tried {β : Type} {pick : Candidate → Option β}
    (unpicked : category = .provider → candidate.descriptor.category = .provider →
      pick candidate = none) :
    (discovery.without category candidate.className).tried.filterMap pick =
      discovery.tried.filterMap pick := by
  by_cases provides : category = .provider
  · subst provides
    rw [Discovery.tried, Discovery.tried, providers_without_self, admissible, List.filter_comm,
      Factory.sortByPriority_filter, List.filterMap_append, List.filterMap_append]
    congr 1
    apply filterMap_filter_of_none
    intro other member dropped
    rw [(Factory.sortByPriority_inPriorityOrder _).mem_iff, List.mem_filter, Bool.and_eq_true,
      beq_iff_eq] at member
    obtain ⟨otherListed, own, -⟩ := member
    have same := distinct.eq_of_dropped listed (mem_providers.mp otherListed).1 dropped
    rw [same] at own ⊢
    exact unpicked rfl own
  · rw [Discovery.tried, Discovery.tried, providers, without_of_ne (Ne.symm provides)]
    rfl

end

namespace Idle

variable (idle : Idle discovery sections category candidate)
include idle

theorem offer?_eq_none {kind : Kind ι} (exactly : kind.Exact) (here : kind.category = category)
    (own : candidate.descriptor.category = category) : offer? sections kind candidate = none := by
  by_cases enabled : sections.enables candidate.descriptor = true
  · exact (idle.unbuilt own enabled).offer?_eq_none exactly (own.trans here.symm) sections
  · rw [offer?, if_neg enabled]

theorem typing?_eq_none (provides : category = .provider)
    (own : candidate.descriptor.category = .provider) :
    typing? sections Kind.providers candidate = none := by
  by_cases enabled : sections.enables candidate.descriptor = true
  · have fruitless := idle.unbuilt (own.trans provides.symm) enabled
    rw [typing?, fruitless.reportedType?_eq_none own, Option.map_none, ite_self]
  · rw [typing?, if_neg enabled]

variable (distinct : discovery.Distinct)
include distinct

theorem types_eq : (discovery.without category candidate.className).types sections =
    discovery.types sections := by
  rw [types, types, distinct.filterMap_tried idle.listed idle.typing?_eq_none]

/-- The validation comes to the same, but that it can excuse fields naming the candidate in another
way. -/
theorem validation_alike :
    let whole := discovery.validation sections
    let rest := (discovery.without category candidate.className).validation sections
    rest.valid = whole.valid ∧ rest.loadOrder = whole.loadOrder ∧
      List.Forall₂ (Finding.Alike candidate.name) whole.findings rest.findings := by
  intro whole rest
  have types := idle.types_eq distinct
  rcases distinct.providers_without idle.listed with same | ⟨provides, free, before, after, split,
    fewer⟩
  · have equal : rest = whole := by
      simp only [rest, whole, validation, graph, providerDescriptors, types, same]
    rw [equal]
    exact ⟨rfl, rfl, List.forall₂_same.mpr fun finding _ => ⟨rfl, rfl, .same _⟩⟩
  · have alike := Graph.validate_insert_idle
      (Builtin.descriptors ++ before.map Candidate.descriptor) (after.map Candidate.descriptor)
      sections (discovery.types sections) (idle.untyped provides free)
    simpa only [rest, whole, validation, graph, providerDescriptors, types, split, fewer,
      List.map_append, List.map_cons, List.append_assoc, Candidate.name] using alike

theorem valid_eq : (discovery.without category candidate.className).valid sections =
    discovery.valid sections := by
  rw [valid, valid, ValidProviders.ofValidation, ValidProviders.ofValidation,
    idle.types_eq distinct, (idle.validation_alike distinct).1]

theorem kept_offers :
    ((discovery.without category candidate.className).kept sections).filterMap
        (offer? sections Kind.providers) =
      (discovery.kept sections).filterMap (offer? sections Kind.providers) := by
  have held : ((discovery.without category candidate.className).validation sections).holdsClass =
      (discovery.validation sections).holdsClass := by
    funext className
    rw [Validation.holdsClass, Validation.holdsClass, (idle.validation_alike distinct).1]
  rw [kept, kept, held, List.filterMap_filter, List.filterMap_filter]
  apply distinct.filterMap_tried idle.listed
  intro provides own
  rw [idle.offer?_eq_none Kind.all_exact.1 provides.symm (own.trans provides.symm), ite_self]

theorem admitted_offers {kind : Kind ι} (exactly : kind.Exact) :
    ((discovery.without category candidate.className).admitted sections kind).filterMap
        (offer? sections kind) =
      (discovery.admitted sections kind).filterMap (offer? sections kind) := by
  rw [admitted, admitted, idle.valid_eq distinct]
  by_cases here : kind.category = category
  · rw [here, without_self, List.filter_comm, Factory.sortByPriority_filter]
    apply filterMap_filter_of_none
    intro other member dropped
    rw [(Factory.sortByPriority_inPriorityOrder _).mem_iff, List.mem_filter, Bool.and_eq_true,
      beq_iff_eq] at member
    obtain ⟨otherListed, own, -⟩ := member
    have same := distinct.eq_of_dropped idle.listed otherListed dropped
    rw [same] at own ⊢
    exact idle.offer?_eq_none exactly here own
  · rw [without_of_ne here]

end Idle

end Discovery

end PluginHost
