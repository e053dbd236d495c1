import PluginHost.Declaration.TypePath

/-
This file reads the keys that are attached to a declaration: where the interface of plugins is
found, and which methods are hooks.
-/

namespace PluginHost

structure Keys where
  home : String := "::tessera_core"
  hooks : List String := []
deriving DecidableEq, Repr

/-- The name of a key is made of words, and may start with colons. -/
structure KeyName where
  isRooted : Bool
  words : List String
deriving DecidableEq, Repr

namespace KeyName

/-- Only a word that stands alone is the name of a method or of a key that is known. -/
def single? (name : KeyName) : Option String :=
  match name with
  | ⟨false, [word]⟩ => some word
  | _ => none

def moreWords : List Token → Except DeclarationError (List String × List Token)
  | .colons :: .word word :: rest =>
    (moreWords rest).map fun (others, rest) => (word :: others, rest)
  | .colons :: rest => .error (.lacking .word rest)
  | rest => .ok ([], rest)

/-- What is wrong with tokens that no name starts. -/
def problem : List Token → DeclarationError
  | [] => .ended .key
  | .literal _ :: _ => .literalKey
  | .mark '-' :: .literal text :: _ =>
    if text.toList.head?.any Char.isDigit then .literalKey else .unnamedKey
  | _ => .unnamedKey

def read (tokens : List Token) : Except DeclarationError (KeyName × List Token) :=
  let (isRooted, unrooted) := match tokens with
    | .colons :: rest => (true, rest)
    | rest => (false, rest)
  match unrooted with
  | .word word :: rest =>
    (moreWords rest).map fun (others, rest) => (⟨isRooted, word :: others⟩, rest)
  | rest => .error (problem rest)

end KeyName

namespace Keys

/-- Reads names with commas between them, and what each of them takes behind it. -/
def each {α : Type} (take : α → KeyName → List Token → Except DeclarationError (α × List Token))
    (fuel : Nat) (gathered : α) (tokens : List Token) : Except DeclarationError α :=
  match fuel with
  | 0 => .ok gathered
  | fuel + 1 =>
    (KeyName.read tokens).bind fun (name, rest) =>
      (take gathered name rest).bind fun (gathered, rest) =>
        match rest with
        | [] => .ok gathered
        | [.mark ','] => .ok gathered
        | .mark ',' :: rest => each take fuel gathered rest
        | _ => .error (.expected (.sign ','))

def takeHook (hooks : List String) (name : KeyName) (tokens : List Token) :
    Except DeclarationError (List String × List Token) :=
  match name.single? with
  | some method => .ok (hooks ++ [method], tokens)
  | none => .error .notAMethod

/-- The path of the home stands behind an equals sign. -/
def takeHome (keys : Keys) (tokens : List Token) :
    Except DeclarationError (Keys × List Token) :=
  match tokens with
  | .mark '=' :: tokens =>
    (TypePath.read tokens).map fun (_, rest) =>
      let path := tokens.take (tokens.length - rest.length)
      ({ keys with home := Nesting.written path }, rest)
  | _ => .error (.expected (.sign '='))

/-- The hooks stand in parentheses. -/
def takeHooks (keys : Keys) (tokens : List Token) :
    Except DeclarationError (Keys × List Token) :=
  match tokens with
  | .opening '(' :: rest =>
    match Nesting.enclosed? 0 rest with
    | some (inner, rest) =>
      (each takeHook (inner.length + 1) keys.hooks inner).map fun hooks =>
        ({ keys with hooks := hooks }, rest)
    | none => .error (.expected .parentheses)
  | tokens => .error (.lacking .parentheses tokens)

def take (keys : Keys) (name : KeyName) (tokens : List Token) :
    Except DeclarationError (Keys × List Token) :=
  match name.single? with
  | some "crate" => keys.takeHome tokens
  | some "post_construct" => keys.takeHooks tokens
  | _ => .error .unknownKey

/-- Of several homes the last one counts, and hooks are added to those before. -/
def read (keys : Keys) (text : String) : Except DeclarationError Keys :=
  let tokens := Token.ofText text
  if tokens.isEmpty then .ok keys else each take (tokens.length + 1) keys tokens

end Keys

end PluginHost
