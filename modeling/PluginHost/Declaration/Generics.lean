import PluginHost.Declaration.Nesting

/-
This file reads the generic parameters of a declaration.
-/

namespace PluginHost

open Nesting

/-- A generic parameter. What follows its name are its bounds, or the type of a constant. -/
structure Parameter where
  attributes : List Token
  keyword : List Token
  name : List Token
  bounds : List Token
  hasComma : Bool
deriving DecidableEq, Repr

namespace Parameter

/-- The attributes in front of a parameter, and the parameter without them. -/
def attributed (fuel : Nat) (tokens : List Token) : List Token × List Token :=
  match fuel, tokens with
  | fuel + 1, .mark '#' :: .opening bracket :: rest =>
    match enclosed? 0 rest with
    | some (inner, behind) =>
      let (others, behind) := attributed fuel behind
      (.mark '#' :: .opening bracket :: inner ++ .closing (closingOf bracket) :: others, behind)
    | none => ([], tokens)
  | _, tokens => ([], tokens)

/-- A default does not belong to the bounds, and neither does a colon that nothing follows. -/
def ofItem (item : Item) : Parameter :=
  let (attributes, declared) := attributed item.tokens.length item.tokens
  let (keyword, named) := declared.span (· == .word "const")
  let bounds := upTo '=' (named.drop 1)
  { attributes := attributes
    keyword := keyword
    name := named.take 1
    bounds := if bounds == [Token.mark ':'] then [] else ordered bounds.length bounds
    hasComma := item.hasComma }

def isLifetime (parameter : Parameter) : Bool :=
  match parameter.name with
  | [.lifetime _] => true
  | _ => false

def introduced (parameter : Parameter) : Item :=
  ⟨parameter.attributes ++ parameter.keyword ++ parameter.name ++ parameter.bounds,
    parameter.hasComma⟩

def applied (parameter : Parameter) : Item := ⟨parameter.name, parameter.hasComma⟩

end Parameter

structure Generics where
  parameters : List Parameter := []
deriving DecidableEq, Repr

namespace Generics

def ofText (text : String) : Generics :=
  match Token.ofText text with
  | .mark '<' :: rest =>
    ⟨((angled? 0 0 rest).map fun parts => (items parts.1).map Parameter.ofItem).getD []⟩
  | _ => ⟨[]⟩

/-- Lifetimes come before the other parameters. -/
def inAngles (generics : Generics) (shown : Parameter → Item) : String :=
  if generics.parameters.isEmpty then ""
  else
    let (lifetimes, others) := generics.parameters.partition Parameter.isLifetime
    "<" ++ Token.written (inOrder (lifetimes.map shown) (others.map shown)) ++ ">"

/-- The parameters as they are applied to the declared name. -/
def applied (generics : Generics) : String := generics.inAngles Parameter.applied

/-- The parameters as an implementation introduces them. -/
def introduced (generics : Generics) : String := generics.inAngles Parameter.introduced

end Generics

end PluginHost
