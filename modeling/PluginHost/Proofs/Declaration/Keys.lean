import PluginHost.Declaration.Keys
import PluginHost.Proofs.Declaration.Paths
import Mathlib.Data.List.Forall2

/-
This file says which hooks the keys of a declaration list, and proves that the reader of keys
gathers them in their order and with their repetitions.
-/

namespace PluginHost

variable {tokens rest : List Token}

/-- Items with commas between them, and maybe one behind the last, and the names that they list. -/
inductive Separated (Item : List Token → List String → Prop) : List Token → List String → Prop where
  | last {tokens : List Token} {names : List String} (item : Item tokens names) :
      Separated Item tokens names
  | closed {tokens : List Token} {names : List String} (item : Item tokens names) :
      Separated Item (tokens ++ [.mark ',']) names
  | more {tokens rest : List Token} {names others : List String} (item : Item tokens names)
      (behind : Separated Item rest others) :
      Separated Item (tokens ++ .mark ',' :: rest) (names ++ others)

/-- A hook is listed by its name. -/
inductive HookItem : List Token → List String → Prop where
  | intro (method : String) : HookItem [.word method] [method]

/-- One key names the home, and the other one lists hooks. -/
inductive KeyItem : List Token → List String → Prop where
  | home {parts : List TypePath.Segment} {path : List Token} (home : TypePath.IsPath parts path) :
      KeyItem (.word "crate" :: .mark '=' :: path) []
  | hooks {inner : List Token} {methods : List String} (listed : Separated HookItem inner methods)
      (bracket : Char) :
      KeyItem (.word "post_construct" :: .opening '(' :: inner ++ [.closing bracket]) methods

/-- The text of one place lists these hooks. -/
inductive Lists (text : String) : List String → Prop where
  | nothing (empty : Token.ofText text = []) : Lists text []
  | keys {methods : List String} (keys : Separated KeyItem (Token.ofText text) methods) :
      Lists text methods

namespace KeyName

theorem moreWords_eq_nil (read : moreWords tokens = .ok ([], rest)) : tokens = rest := by
  unfold moreWords at read
  split at read
  · obtain ⟨answer, -, same⟩ := ok_of_map read
    cases same
  · cases read
  · cases read
    rfl

theorem single?_eq_some {name : KeyName} {word : String} (single : name.single? = some word) :
    name = ⟨false, [word]⟩ := by
  unfold single? at single
  split at single
  · cases single
    rfl
  · cases single

/-- A name of a single word is that word. -/
theorem read_single {word : String} (taken : read tokens = .ok (⟨false, [word]⟩, rest)) :
    tokens = .word word :: rest := by
  rcases tokens with _ | ⟨token, behind⟩
  · cases taken
  · cases token with
    | word first =>
        obtain ⟨⟨others, last⟩, more, same⟩ := ok_of_map taken
        cases same
        rw [moreWords_eq_nil more]
    | colons =>
        unfold read at taken
        dsimp only at taken
        split at taken
        · obtain ⟨answer, -, same⟩ := ok_of_map taken
          cases same
        · cases taken
    | _ => cases taken

end KeyName

namespace Keys

variable {α : Type} {taking : α → KeyName → List Token → Except DeclarationError (α × List Token)}
  {Item : List Token → List String → Prop} {names : α → List String}

/-- What is taken behind a name makes an item of the name, and the item lists what is gathered. -/
def Takes (taking : α → KeyName → List Token → Except DeclarationError (α × List Token))
    (Item : List Token → List String → Prop) (names : α → List String) : Prop :=
  ∀ {gathered after : α} {name : KeyName} {tokens behind rest : List Token},
    KeyName.read tokens = .ok (name, behind) → taking gathered name behind = .ok (after, rest) →
      ∃ item listed, tokens = item ++ rest ∧ item ≠ [] ∧ Item item listed ∧
        names after = names gathered ++ listed

theorem each_separated (takes : Takes taking Item names) {fuel : Nat} {gathered after : α}
    (enough : tokens.length < fuel) (read : each taking fuel gathered tokens = .ok after) :
    ∃ listed, Separated Item tokens listed ∧ names after = names gathered ++ listed := by
  induction fuel generalizing gathered tokens with
  | zero => exact absurd enough (Nat.not_lt_zero _)
  | succ fuel ih =>
      rw [each] at read
      obtain ⟨⟨name, behind⟩, named, continued⟩ := ok_of_bind read
      obtain ⟨⟨next, rest⟩, taken, closing⟩ := ok_of_bind continued
      obtain ⟨item, listed, rfl, full, isItem, gains⟩ := takes named taken
      dsimp only at closing
      split at closing
      · cases closing
        rw [List.append_nil]
        exact ⟨listed, .last isItem, gains⟩
      · cases closing
        exact ⟨listed, .closed isItem, gains⟩
      · rename_i more _
        have shorter : more.length < fuel := by
          rw [List.length_append, List.length_cons] at enough
          omega
        obtain ⟨others, behind, adds⟩ := ih shorter closing
        exact ⟨listed ++ others, .more isItem behind, by rw [adds, gains, List.append_assoc]⟩
      · cases closing

theorem takeHook_takes : Takes takeHook HookItem id := by
  intro hooks after name tokens behind rest named taken
  unfold takeHook at taken
  split at taken
  · rename_i method single
    cases taken
    rw [KeyName.single?_eq_some single] at named
    exact ⟨[.word method], [method], KeyName.read_single named, List.cons_ne_nil _ _,
      .intro method, rfl⟩
  · cases taken

theorem takeHome_spec {keys after : Keys} (taken : takeHome keys tokens = .ok (after, rest)) :
    ∃ parts path, tokens = .mark '=' :: path ++ rest ∧ TypePath.IsPath parts path ∧
      after.hooks = keys.hooks := by
  unfold takeHome at taken
  split at taken
  · obtain ⟨⟨parts, behind⟩, read, same⟩ := ok_of_map taken
    cases same
    obtain ⟨path, rfl, isPath⟩ := TypePath.read_eq_ok read
    exact ⟨parts, path, rfl, isPath, rfl⟩
  · cases taken

theorem takeHooks_spec {keys after : Keys} (taken : takeHooks keys tokens = .ok (after, rest)) :
    ∃ inner bracket methods, tokens = .opening '(' :: inner ++ .closing bracket :: rest ∧
      Separated HookItem inner methods ∧ after.hooks = keys.hooks ++ methods := by
  unfold takeHooks at taken
  split at taken
  · split at taken
    · rename_i inner behind cut
      obtain ⟨hooks, read, same⟩ := ok_of_map taken
      cases same
      obtain ⟨bracket, rfl⟩ := Nesting.enclosed?_eq_some cut
      obtain ⟨methods, listed, gains⟩ :=
        each_separated takeHook_takes (Nat.lt_succ_self inner.length) read
      exact ⟨inner, bracket, methods, rfl, listed, gains⟩
    · cases taken
  · cases taken

theorem take_takes : Takes take KeyItem Keys.hooks := by
  intro keys after name tokens behind rest named taken
  unfold take at taken
  split at taken
  · rename_i single
    rw [KeyName.single?_eq_some single] at named
    obtain ⟨parts, path, rfl, isPath, same⟩ := takeHome_spec taken
    refine ⟨.word "crate" :: .mark '=' :: path, [], KeyName.read_single named,
      List.cons_ne_nil _ _, .home isPath, ?_⟩
    rw [same, List.append_nil]
  · rename_i single
    rw [KeyName.single?_eq_some single] at named
    obtain ⟨inner, bracket, methods, rfl, listed, gains⟩ := takeHooks_spec taken
    refine ⟨.word "post_construct" :: .opening '(' :: inner ++ [.closing bracket], methods, ?_,
      List.cons_ne_nil _ _, .hooks listed bracket, gains⟩
    rw [KeyName.read_single named]
    simp
  · cases taken

/-- Reading the keys of one place adds the hooks that it lists. -/
theorem read_lists {keys after : Keys} {text : String} (taken : keys.read text = .ok after) :
    ∃ methods, Lists text methods ∧ after.hooks = keys.hooks ++ methods := by
  unfold read at taken
  dsimp only at taken
  split at taken
  · rename_i empty
    cases taken
    exact ⟨[], .nothing (List.isEmpty_iff.mp empty), (List.append_nil _).symm⟩
  · obtain ⟨methods, listed, gains⟩ := each_separated take_takes (Nat.lt_succ_self _) taken
    exact ⟨methods, .keys listed, gains⟩

theorem foldlM_lists {keys after : Keys} {attached : List String}
    (taken : attached.foldlM Keys.read keys = .ok after) :
    ∃ lists, List.Forall₂ Lists attached lists ∧ after.hooks = keys.hooks ++ lists.flatten := by
  induction attached generalizing keys with
  | nil =>
      cases taken
      exact ⟨[], .nil, (List.append_nil _).symm⟩
  | cons text rest ih =>
      obtain ⟨next, first, later⟩ := ok_of_foldlM_cons taken
      obtain ⟨methods, listed, gains⟩ := read_lists first
      obtain ⟨lists, others, adds⟩ := ih later
      refine ⟨methods :: lists, .cons listed others, ?_⟩
      rw [adds, gains, List.flatten_cons, List.append_assoc]

end Keys

end PluginHost
