import PluginHost.Declaration.TypePath
import PluginHost.Proofs.Success

/-
This file says which tokens are a path, and proves that the reader of paths takes such tokens. From
this follows which type is the argument of a slot type.
-/

namespace PluginHost

namespace Nesting

variable {tokens inner rest : List Token}

theorem enclosed?_eq_some {depth : Nat} (cut : enclosed? depth tokens = some (inner, rest)) :
    ∃ bracket, tokens = inner ++ .closing bracket :: rest := by
  induction tokens generalizing depth inner with
  | nil => cases cut
  | cons token behind ih =>
      have kept {next : Nat}
          (cut : (enclosed? next behind).map (fun parts => (token :: parts.1, parts.2)) =
            some (inner, rest)) :
          ∃ bracket, token :: behind = inner ++ .closing bracket :: rest := by
        obtain ⟨⟨part, last⟩, found, same⟩ := Option.map_eq_some_iff.mp cut
        cases same
        obtain ⟨bracket, rfl⟩ := ih found
        exact ⟨bracket, rfl⟩
      unfold enclosed? at cut
      dsimp only at cut
      split at cut
      · exact kept cut
      · cases cut
        exact ⟨_, rfl⟩
      · exact kept cut
      · exact kept cut

theorem angled?_eq_some {angles brackets : Nat}
    (cut : angled? angles brackets tokens = some (inner, rest)) :
    tokens = inner ++ .mark '>' :: rest ∧
      ∀ other, angled? angles brackets (inner ++ .mark '>' :: other) = some (inner, other) := by
  induction tokens generalizing angles brackets inner with
  | nil => cases cut
  | cons token behind ih =>
      have kept {nextAngles nextBrackets : Nat}
          (cut : (angled? nextAngles nextBrackets behind).map
            (fun parts => (token :: parts.1, parts.2)) = some (inner, rest)) :
          ∃ part, inner = token :: part ∧ behind = part ++ .mark '>' :: rest ∧
            ∀ other, angled? nextAngles nextBrackets (part ++ .mark '>' :: other) =
              some (part, other) := by
        obtain ⟨⟨part, last⟩, found, same⟩ := Option.map_eq_some_iff.mp cut
        cases same
        exact ⟨part, rfl, ih found⟩
      unfold angled? at cut
      dsimp only at cut
      split at cut
      · obtain ⟨part, rfl, rfl, again⟩ := kept cut
        exact ⟨rfl, fun other => by simp [angled?, again other]⟩
      · cases cut
      · obtain ⟨part, rfl, rfl, again⟩ := kept cut
        exact ⟨rfl, fun other => by simp [angled?, again other]⟩
      · rename_i sign
        by_cases opens : sign = '<'
        · rw [if_pos opens] at cut
          obtain ⟨part, rfl, rfl, again⟩ := kept cut
          exact ⟨rfl, fun other => by simp [angled?, opens, again other]⟩
        · rw [if_neg opens] at cut
          by_cases closes : sign = '>'
          · subst closes
            rw [if_neg (not_not_intro rfl)] at cut
            by_cases outermost : angles = 0
            · rw [if_pos outermost] at cut
              cases cut
              exact ⟨rfl, fun other => by simp [angled?, outermost]⟩
            · rw [if_neg outermost] at cut
              obtain ⟨part, rfl, rfl, again⟩ := kept cut
              exact ⟨rfl, fun other => by simp [angled?, outermost, again other]⟩
          · rw [if_pos closes] at cut
            obtain ⟨part, rfl, rfl, again⟩ := kept cut
            exact ⟨rfl, fun other => by simp [angled?, opens, closes, again other]⟩
      · obtain ⟨part, rfl, rfl, again⟩ := kept cut
        exact ⟨rfl, fun other => by simp [angled?, again other]⟩

theorem gather_head {current : List Token} {marked : List (Token × Bool)} {item : Item}
    (first : (gather current marked).head? = some item) :
    item.tokens =
      current.reverse ++ (marked.takeWhile (· != (.mark ',', true))).map Prod.fst := by
  induction marked generalizing current with
  | nil =>
      rw [gather] at first
      split at first
      · cases first
      · cases first
        exact (List.append_nil _).symm
  | cons entry rest ih =>
      obtain ⟨token, outside⟩ := entry
      rw [gather] at first
      by_cases comma : (token, outside) = (.mark ',', true)
      · cases comma
        cases first
        simp
      · have passed : ¬(decide (token = .mark ',') && outside) = true := by
          simpa [Prod.ext_iff] using comma
        have goes : ((token, outside) != (.mark ',', true)) = true := bne_iff_ne.mpr comma
        rw [if_neg passed] at first
        rw [List.takeWhile_cons, if_pos goes, ih first, List.reverse_cons, List.append_assoc]
        rfl

/-- The first item reaches up to the first comma that no bracket encloses. -/
theorem items_head {item : Item} (first : (items tokens).head? = some item) :
    item.tokens = upTo ',' tokens :=
  gather_head first

end Nesting

namespace TypePath

open Nesting

variable {tokens rest : List Token}

/-- The angle behind these tokens is the one that closes. -/
def Closed (arguments : List Token) : Prop :=
  ∀ other, angled? 0 0 (arguments ++ .mark '>' :: other) = some (arguments, other)

/-- The tokens of one part of a path. -/
inductive PartTokens : Segment → List Token → Prop where
  | bare (name : String) : PartTokens ⟨name, none⟩ [.word name]
  | angled (name : String) {arguments : List Token} (closed : Closed arguments) :
      PartTokens ⟨name, some arguments⟩ (.word name :: .mark '<' :: arguments ++ [.mark '>'])
  | colons (name : String) {arguments : List Token} (closed : Closed arguments) :
      PartTokens ⟨name, some arguments⟩
        (.word name :: .colons :: .mark '<' :: arguments ++ [.mark '>'])

/-- The parts of a path stand with colons between them. -/
inductive PathTokens : List Segment → List Token → Prop where
  | last {part : Segment} {tokens : List Token} (only : PartTokens part tokens) :
      PathTokens [part] tokens
  | more {part : Segment} {parts : List Segment} {tokens rest : List Token}
      (first : PartTokens part tokens) (others : PathTokens parts rest) :
      PathTokens (part :: parts) (tokens ++ .colons :: rest)

/-- A path may start with colons. -/
inductive IsPath : List Segment → List Token → Prop where
  | plain {parts : List Segment} {tokens : List Token} (path : PathTokens parts tokens) :
      IsPath parts tokens
  | rooted {parts : List Segment} {tokens : List Token} (path : PathTokens parts tokens) :
      IsPath parts (.colons :: tokens)

theorem withArguments_eq_ok {name : String} {part : Segment}
    (taken : withArguments name tokens = .ok (part, rest)) :
    ∃ arguments, part = ⟨name, some arguments⟩ ∧ tokens = arguments ++ .mark '>' :: rest ∧
      Closed arguments := by
  unfold withArguments at taken
  split at taken
  · rename_i arguments behind cut
    cases taken
    exact ⟨arguments, rfl, angled?_eq_some cut⟩
  · cases taken

theorem segment_eq_ok {part : Segment} (taken : segment tokens = .ok (part, rest)) :
    ∃ own, tokens = own ++ rest ∧ PartTokens part own := by
  unfold segment at taken
  split at taken
  · rename_i name behind
    split at taken
    · cases taken
      exact ⟨[.word name], rfl, .bare name⟩
    · split at taken
      · cases taken
      · split at taken
        · obtain ⟨arguments, rfl, rfl, closed⟩ := withArguments_eq_ok taken
          exact ⟨_, by simp, .angled name closed⟩
        · obtain ⟨arguments, rfl, rfl, closed⟩ := withArguments_eq_ok taken
          exact ⟨_, by simp, .colons name closed⟩
        · cases taken
          exact ⟨[.word name], rfl, .bare name⟩
  · cases taken

theorem segments_eq_ok {fuel : Nat} {parts : List Segment}
    (taken : segments fuel tokens = .ok (parts, rest)) :
    ∃ own, tokens = own ++ rest ∧ PathTokens parts own := by
  induction fuel generalizing tokens parts with
  | zero => cases taken
  | succ fuel ih =>
      rw [segments] at taken
      obtain ⟨⟨part, behind⟩, first, continued⟩ := ok_of_bind taken
      obtain ⟨own, rfl, shape⟩ := segment_eq_ok first
      dsimp only at continued
      split at continued
      · cases continued
        exact ⟨own, rfl, .last shape⟩
      · obtain ⟨⟨others, last⟩, later, same⟩ := ok_of_map continued
        cases same
        obtain ⟨path, rfl, shapes⟩ := ih later
        exact ⟨own ++ .colons :: path, by simp, .more shape shapes⟩
      · cases continued
        exact ⟨own, rfl, .last shape⟩

/-- What is read as a path is one, and nothing behind it is lost. -/
theorem read_eq_ok {parts : List Segment} (taken : read tokens = .ok (parts, rest)) :
    ∃ own, tokens = own ++ rest ∧ IsPath parts own := by
  unfold read at taken
  split at taken
  · obtain ⟨own, rfl, path⟩ := segments_eq_ok taken
    exact ⟨.colons :: own, rfl, .rooted path⟩
  · obtain ⟨own, rfl, path⟩ := segments_eq_ok taken
    exact ⟨own, rfl, .plain path⟩

theorem unqualified?_eq_some (cut : unqualified? tokens = some rest) :
    ∃ front, tokens = front ++ rest ∧
      (front = [] ∨ ∃ type, Closed type ∧
        front = .mark '<' :: type ++ [.mark '>', .colons]) := by
  unfold unqualified? at cut
  split at cut
  · obtain ⟨⟨type, behind⟩, found, same⟩ := Option.bind_eq_some_iff.mp cut
    dsimp only at same
    split at same
    · cases same
      obtain ⟨rfl, closed⟩ := angled?_eq_some found
      exact ⟨_, by simp, .inr ⟨type, closed, rfl⟩⟩
    · cases same
  · cases cut
    exact ⟨[], rfl, .inl rfl⟩

/-- The text is a path, maybe a qualified one, that ends with the name and with a list of arguments,
of which the first is the type. -/
inductive Applied (name text : String) : String → Prop where
  | intro {front path arguments : List Token} {parts : List Segment}
      (tokens : Token.ofText text = front ++ path)
      (qualified : front = [] ∨ ∃ type, Closed type ∧
        front = .mark '<' :: type ++ [.mark '>', .colons])
      (named : IsPath (parts ++ [⟨name, some arguments⟩]) path)
      (type : isType (upTo ',' arguments) = true) :
      Applied name text (written (upTo ',' arguments))

theorem argumentOf?_eq_some {name text type : String}
    (found : argumentOf? name text = some type) : Applied name text type := by
  obtain ⟨path, cut, found⟩ := Option.bind_eq_some_iff.mp found
  obtain ⟨front, tokens, qualified⟩ := unqualified?_eq_some cut
  split at found
  · rename_i parts taken
    obtain ⟨last, chosen, found⟩ := Option.bind_eq_some_iff.mp found
    obtain ⟨ending, named⟩ := Option.filter_eq_some_iff.mp chosen
    obtain ⟨arguments, given, found⟩ := Option.bind_eq_some_iff.mp found
    obtain ⟨first, typed, rfl⟩ := Option.map_eq_some_iff.mp found
    obtain ⟨headed, isType⟩ := Option.filter_eq_some_iff.mp typed
    obtain ⟨item, head, rfl⟩ := Option.map_eq_some_iff.mp headed
    obtain ⟨own, whole, shape⟩ := read_eq_ok taken
    rw [List.append_nil] at whole
    obtain ⟨others, rfl⟩ := List.getLast?_eq_some_iff.mp ending
    have same : last = ⟨name, some arguments⟩ := by
      rw [← given, ← beq_iff_eq.mp named]
    rw [same, ← whole] at shape
    rw [items_head head] at isType ⊢
    exact .intro tokens qualified shape isType
  · cases found

end TypePath

end PluginHost
