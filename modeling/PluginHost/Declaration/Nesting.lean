import PluginHost.Declaration.Token

/-
This file cuts tokens at places that no bracket encloses, and puts lifetimes in front of whatever
else stands between angles.
-/

namespace PluginHost.Nesting

/-- What stands up to the bracket that closes, and what stands behind it. The opening bracket has
been passed, and the depth counts the brackets opened since. -/
def enclosed? (depth : Nat) : List Token → Option (List Token × List Token)
  | [] => none
  | token :: rest =>
    let keeping (depth : Nat) : Option (List Token × List Token) :=
      (enclosed? depth rest).map fun parts => (token :: parts.1, parts.2)
    match token, depth with
    | .opening _, depth => keeping (depth + 1)
    | .closing _, 0 => some ([], rest)
    | .closing _, depth + 1 => keeping depth
    | _, depth => keeping depth

/-- The same for angles. Those inside of brackets do not count. -/
def angled? (angles brackets : Nat) : List Token → Option (List Token × List Token)
  | [] => none
  | token :: rest =>
    let keeping (angles brackets : Nat) : Option (List Token × List Token) :=
      (angled? angles brackets rest).map fun parts => (token :: parts.1, parts.2)
    match token, brackets with
    | .opening _, brackets => keeping angles (brackets + 1)
    | .closing _, 0 => none
    | .closing _, brackets + 1 => keeping angles brackets
    | .mark sign, 0 =>
      if sign = '<' then keeping (angles + 1) 0
      else if sign ≠ '>' then keeping angles 0
      else if angles = 0 then some ([], rest)
      else keeping (angles - 1) 0
    | _, brackets => keeping angles brackets

/-- Tells of each token whether it stands outside of all brackets and angles. -/
def outermost (angles brackets : Nat) : List Token → List (Token × Bool)
  | [] => []
  | token :: rest =>
    (token, angles == 0 && brackets == 0) ::
      match token, brackets with
      | .opening _, brackets => outermost angles (brackets + 1) rest
      | .closing _, brackets => outermost angles (brackets - 1) rest
      | .mark '<', 0 => outermost (angles + 1) 0 rest
      | .mark '>', 0 => outermost (angles - 1) 0 rest
      | _, brackets => outermost angles brackets rest

/-- The tokens in front of a mark that no bracket encloses. -/
def upTo (sign : Char) (tokens : List Token) : List Token :=
  ((outermost 0 0 tokens).takeWhile (· != (.mark sign, true))).map Prod.fst

/-- An item of a list, with the comma behind it if there is one. -/
structure Item where
  tokens : List Token
  hasComma : Bool
deriving DecidableEq, Repr

def Item.all (item : Item) : List Token :=
  item.tokens ++ if item.hasComma then [.mark ','] else []

/-- The current item holds its tokens in reverse. -/
def gather (current : List Token) : List (Token × Bool) → List Item
  | [] => if current.isEmpty then [] else [⟨current.reverse, false⟩]
  | (token, outside) :: rest =>
    if token = .mark ',' && outside then ⟨current.reverse, true⟩ :: gather [] rest
    else gather (token :: current) rest

def items (tokens : List Token) : List Item := gather [] (outermost 0 0 tokens)

/-- Items keep their commas. One is put in where there would be none between two items. -/
def inOrder (one others : List Item) : List Token :=
  let isOpen := one.getLast?.any fun item => !item.hasComma
  one.flatMap Item.all ++ (if isOpen && !others.isEmpty then [.mark ','] else []) ++
    others.flatMap Item.all

def Item.isLifetime : Item → Bool
  | ⟨[.lifetime _], _⟩ => true
  | _ => false

def closingOf : Char → Char
  | '(' => ')'
  | '[' => ']'
  | _ => '\x7d'

/-- Brings the arguments of types into order, those of the types between them as well. The length
of an array and what stands in braces are no types. -/
def ordered (fuel : Nat) (tokens : List Token) : List Token :=
  match fuel, tokens with
  | fuel + 1, .mark '<' :: rest =>
    match angled? 0 0 rest with
    | some (inner, behind) =>
      let (lifetimes, others) :=
        ((items inner).map fun item => { item with tokens := ordered fuel item.tokens }).partition
          Item.isLifetime
      .mark '<' :: inOrder lifetimes others ++ .mark '>' :: ordered fuel behind
    | none => tokens
  | fuel + 1, .opening bracket :: rest =>
    match enclosed? 0 rest with
    | some (inner, behind) =>
      let types := if bracket = '\x7b' then [] else upTo ';' inner
      .opening bracket :: ordered fuel types ++ inner.drop types.length ++
        .closing (closingOf bracket) :: ordered fuel behind
    | none => tokens
  | fuel + 1, token :: rest => token :: ordered fuel rest
  | _, tokens => tokens

/-- A type as it is written out. -/
def written (tokens : List Token) : String := Token.written (ordered tokens.length tokens)

end PluginHost.Nesting
