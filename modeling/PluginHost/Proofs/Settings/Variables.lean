import PluginHost.Proofs.Settings.Layers
import PluginHost.Settings.Environment
import Mathlib.Data.String.Basic

/-
This file says where the environment puts the content of a variable. The parts of its name that two
underscores divide are the names of the path, and the content of the last variable counts.
-/

namespace PluginHost

open Document

namespace Text

open String

/-- The text is split up to `before`, and `part` belongs to the part that is being read. -/
theorem splitOnAux_point (before part after : List Char) (done : List String) :
    (String.ofList (before ++ part ++ after)).splitOnAux "." ⟨utf8Len before⟩
        ⟨utf8Len before + utf8Len part⟩ 0 done =
      done.reverse ++
        (List.splitOnPPrepend (· == '.') after part.reverse).map String.ofList := by
  have point : Pos.Raw.get "." 0 = '.' := by decide
  have past : Pos.Raw.atEnd "." (Pos.Raw.next "." 0) = true := by decide
  have width : Pos.Raw.next "." 0 = ⟨1⟩ := by decide
  induction after generalizing before part done with
  | nil =>
      have ended := (atEnd_of_valid (before ++ part) []).mpr rfl
      have cut := extract_of_valid before part []
      rw [utf8Len_append] at ended
      rw [splitOnAux, if_pos ended, cut]
      simp [List.splitOnPPrepend]
  | cons c rest ih =>
      have more : ¬Pos.Raw.atEnd (String.ofList (before ++ part ++ c :: rest))
          ⟨utf8Len before + utf8Len part⟩ = true := by
        rw [← utf8Len_append, atEnd_of_valid]
        exact List.cons_ne_nil c rest
      have here : Pos.Raw.get (String.ofList (before ++ part ++ c :: rest))
          ⟨utf8Len before + utf8Len part⟩ = c := by
        rw [← utf8Len_append, get_of_valid]
        rfl
      have next : Pos.Raw.next (String.ofList (before ++ part ++ c :: rest))
          ⟨utf8Len before + utf8Len part⟩ = ⟨utf8Len before + utf8Len part + c.utf8Size⟩ := by
        rw [← utf8Len_append, next_of_valid]
      rw [splitOnAux, if_neg more, here, point]
      by_cases same : c = '.'
      · subst same
        have cut := extract_of_valid before part ('.' :: rest)
        have unread : (⟨utf8Len before + utf8Len part + '.'.utf8Size⟩ : Pos.Raw).unoffsetBy ⟨1⟩ =
            ⟨utf8Len before + utf8Len part⟩ := rfl
        have later := ih (before ++ part ++ ['.']) [] (String.ofList part :: done)
        rw [if_pos (beq_self_eq_true '.'), if_pos past, next, width, unread, cut]
        simp only [List.append_nil, List.append_assoc, List.singleton_append, utf8Len_append,
          utf8Len_cons, utf8Len_nil, Nat.zero_add, Nat.add_zero, List.reverse_nil,
          List.reverse_cons, ← Nat.add_assoc] at later ⊢
        rw [later, List.splitOnPPrepend_cons_eq_if]
        simp
      · have unmoved : (⟨utf8Len before + utf8Len part⟩ : Pos.Raw).unoffsetBy 0 =
            ⟨utf8Len before + utf8Len part⟩ := rfl
        have later := ih before (part ++ [c]) done
        rw [if_neg (by simpa using same), unmoved]
        simp only [List.append_assoc, List.singleton_append, utf8Len_append, utf8Len_cons,
          utf8Len_nil, Nat.zero_add, ← Nat.add_assoc] at later next ⊢
        rw [next, later, List.splitOnPPrepend_cons_eq_if]
        simp [same]

theorem splitOn_point (text : String) :
    text.splitOn "." = (List.splitOn '.' text.toList).map String.ofList := by
  have all := splitOnAux_point [] [] text.toList []
  rw [String.splitOn, if_neg (by decide)]
  simpa [List.splitOn] using all

/-- Parts without a point come back from the text that joins them with points. -/
theorem splitOn_intercalate {parts : List String} (proper : parts ≠ [])
    (whole : ∀ part ∈ parts, '.' ∉ part.toList) :
    (String.intercalate "." parts).splitOn "." = parts := by
  have joined : List.splitOn '.' (['.'].intercalate (parts.map String.toList)) =
      parts.map String.toList :=
    List.splitOn_intercalate '.' (by simpa using whole) (by simpa using proper)
  rw [splitOn_point, String.toList_intercalate]
  change List.map String.ofList (List.splitOn '.' (['.'].intercalate (parts.map String.toList))) = _
  rw [joined, List.map_map]
  simp

theorem mem_intercalate {c point : Char} {parts : List (List Char)}
    (member : c ∈ [point].intercalate parts) : c = point ∨ ∃ part ∈ parts, c ∈ part := by
  induction parts with
  | nil => cases member
  | cons first rest ih =>
      cases rest with
      | nil =>
          rw [List.intercalate_singleton] at member
          exact .inr ⟨first, List.mem_cons_self, member⟩
      | cons second rest =>
          rw [List.intercalate_cons_cons, List.mem_append, List.mem_append, List.mem_singleton]
            at member
          rcases member with (inside | same) | later
          · exact .inr ⟨first, List.mem_cons_self, inside⟩
          · exact .inl same
          · exact (ih later).imp_right fun ⟨part, listed, inside⟩ =>
              ⟨part, List.mem_cons_of_mem first listed, inside⟩

/-- Without blanks there is nothing to trim. -/
theorem trim_of_unblank {text : String} (unblank : ∀ c ∈ text.toList, isBlank c = false) :
    trim text = text := by
  have kept {chars : List Char} (plain : ∀ c ∈ chars, isBlank c = false) :
      chars.dropWhile isBlank = chars := by
    cases chars with
    | nil => rfl
    | cons c rest => rw [List.dropWhile_cons, plain c List.mem_cons_self, if_neg Bool.false_ne_true]
  rw [trim, trimChars, kept unblank, kept fun c member => unblank c (List.mem_reverse.mp member),
    List.reverse_reverse, String.ofList_toList]

theorem splitOnAux_ne_nil (text separator : String) (start place matched : String.Pos.Raw)
    (done : List String) : text.splitOnAux separator start place matched done ≠ [] := by
  fun_induction String.splitOnAux text separator start place matched done with
  | case1 => simp
  | case2 => assumption
  | case3 => assumption
  | case4 => assumption

theorem splitOn_ne_nil (text separator : String) : text.splitOn separator ≠ [] := by
  rw [String.splitOn]
  split
  · exact List.cons_ne_nil text []
  · exact splitOnAux_ne_nil text separator 0 0 0 []

end Text

namespace Environment

def lowered (part : String) : String := String.ofList (part.toList.map Char.toLower)

/-- A part that is a name of its own. -/
def IsName (part : String) : Prop :=
  part.isEmpty = false ∧ ∀ c ∈ part.toList, c ≠ '.' ∧ Text.isBlank c = false

theorem path?_eq_some {name : String} (named : ∀ part ∈ name.splitOn "__", IsName part) :
    path? name = some ((name.splitOn "__").map lowered) := by
  have unblank : ∀ c ∈ (String.intercalate "." (name.splitOn "__")).toList,
      Text.isBlank c = false := by
    intro c member
    rw [String.toList_intercalate] at member
    rcases Text.mem_intercalate member with rfl | ⟨chars, listed, inside⟩
    · decide
    · obtain ⟨part, parted, rfl⟩ := List.mem_map.mp listed
      exact ((named part parted).2 c inside).2
  have parts := Text.splitOn_intercalate (Text.splitOn_ne_nil name "__")
    fun part listed point => ((named part listed).2 '.' point).1 rfl
  have filled : (name.splitOn "__").any String.isEmpty = false :=
    List.any_eq_false.mpr fun part listed => by rw [(named part listed).1]; exact Bool.false_ne_true
  rw [path?, Text.trim_of_unblank unblank, parts]
  rw [filled]
  rfl

theorem ownName?_host (name : String) : ownName? (hostPrefix ++ name) = some name := by
  have start : (hostPrefix ++ name).toList.take hostPrefix.length = hostPrefix.toList := by
    rw [String.toList_append]
    exact List.take_left
  have rest : (hostPrefix ++ name).toList.drop hostPrefix.length = name.toList := by
    rw [String.toList_append]
    exact List.drop_left
  rw [ownName?, start, rest, String.ofList_toList]
  rfl

theorem path?_proper {name : String} {path : List String} (read : path? name = some path) :
    path ≠ [] ∧ ∀ part ∈ path, part.isEmpty = false := by
  rw [path?] at read
  split at read
  · cases read
  · rename_i whole
    cases read
    refine ⟨fun absurd => Text.splitOn_ne_nil _ _ (List.map_eq_nil_iff.mp absurd), fun part member => ?_⟩
    obtain ⟨old, listed, rfl⟩ := List.mem_map.mp member
    have filled : old.isEmpty = false := by
      by_contra blank
      exact whole (List.any_eq_true.mpr ⟨old, listed, by simpa using blank⟩)
    simpa [String.isEmpty_iff] using filled

/-- The content of a variable of the host, under the path of its name. -/
def layer? (entry : String × String) : Option Document :=
  ((ownName? entry.1).bind path?).map fun path =>
    Document.nest origin path (Content.read origin entry.2)

/-- The parts between double underscores, in small letters, are the path. -/
theorem layer?_host {name : String} (named : ∀ part ∈ name.splitOn "__", IsName part)
    (content : String) : layer? (hostPrefix ++ name, content) =
      some (Document.nest origin ((name.splitOn "__").map lowered)
        (Content.read origin content)) := by
  rw [layer?, ownName?_host, Option.bind_some, path?_eq_some named, Option.map_some]

def layers (environment : Environment) : List Document := environment.filterMap layer?

theorem document_eq_stacked (environment : Environment) :
    environment.document = stacked (.table origin []) environment.layers := by
  rw [document, stacked, layers, List.foldl_filterMap]
  congr 1
  funext lower entry
  rw [layer?]
  cases (ownName? entry.1).bind path? <;> rfl

/-- Where no variable gives a table on its own, the last one counts that has a value. -/
theorem document_at? (environment : Environment) {path : List String} (proper : path ≠ [])
    (settles : ∀ layer ∈ environment.layers, layer.Settles path) :
    environment.document.at? path = lastAt? environment.layers path := by
  obtain ⟨part, rest, rfl⟩ := List.exists_cons_of_ne_nil proper
  have lowest : (Document.table origin []).Settles (part :: rest) :=
    (settles_cons _ part rest).mpr ⟨origin, [], rfl, fun member found => nomatch found⟩
  rw [document_eq_stacked, (settles_stacked settles lowest).2]
  exact Option.or_none

end Environment

end PluginHost
