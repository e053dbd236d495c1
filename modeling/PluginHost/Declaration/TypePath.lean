import PluginHost.Declaration.Nesting
import PluginHost.Declaration.Problem

/-
This file reads types that are written as paths.
-/

namespace PluginHost.TypePath

open Nesting

/-- A part of a path, with what stands between its angles if it has any. -/
structure Segment where
  name : String
  arguments : Option (List Token) := none
deriving DecidableEq, Repr

/-- Words that stand for a place and take no arguments. -/
def places : List String := ["super", "self", "crate", "try"]

/-- Words that cannot be the name of anything. -/
def reserved : List String :=
  ["_", "abstract", "as", "async", "await", "become", "box", "break", "const", "continue", "do",
    "dyn", "else", "enum", "extern", "false", "final", "fn", "for", "if", "impl", "in", "let",
    "loop", "macro", "match", "mod", "move", "mut", "override", "priv", "pub", "ref", "return",
    "static", "struct", "trait", "true", "type", "typeof", "unsafe", "unsized", "use", "virtual",
    "where", "while", "yield"]

def withArguments (name : String) (tokens : List Token) :
    Except DeclarationError (Segment × List Token) :=
  match angled? 0 0 tokens with
  | some (arguments, rest) => .ok (⟨name, some arguments⟩, rest)
  | none => .error (.ended (.sign '>'))

/-- There may be colons in front of the angles. -/
def segment (tokens : List Token) : Except DeclarationError (Segment × List Token) :=
  match tokens with
  | .word name :: rest =>
    if places.contains name then .ok (⟨name, none⟩, rest)
    else if reserved.contains name then .error (.reserved name)
    else
      match rest with
      | .mark '<' :: rest => withArguments name rest
      | .colons :: .mark '<' :: rest => withArguments name rest
      | rest => .ok (⟨name, none⟩, rest)
  | tokens => .error (.lacking .identifier tokens)

/-- Colons in front of a parenthesis do not belong to the path. -/
def segments (fuel : Nat) (tokens : List Token) :
    Except DeclarationError (List Segment × List Token) :=
  match fuel with
  | 0 => .error (.lacking .identifier tokens)
  | fuel + 1 =>
    (segment tokens).bind fun (read, rest) =>
      match rest with
      | .colons :: .opening '(' :: _ => .ok ([read], rest)
      | .colons :: rest =>
        (segments fuel rest).map fun (others, rest) => (read :: others, rest)
      | rest => .ok ([read], rest)

/-- A path may start with colons. -/
def read (tokens : List Token) : Except DeclarationError (List Segment × List Token) :=
  match tokens with
  | .colons :: rest => segments (rest.length + 1) rest
  | tokens => segments (tokens.length + 1) tokens

/-- A qualifying type may stand in angles before a path. -/
def unqualified? (tokens : List Token) : Option (List Token) :=
  match tokens with
  | .mark '<' :: rest =>
    (angled? 0 0 rest).bind fun (_, rest) =>
      match rest with
      | .colons :: rest => some rest
      | _ => none
  | tokens => some tokens

/-- Lifetimes, constants and arguments with a name or a bound are no types. -/
def isType (tokens : List Token) : Bool :=
  match tokens with
  | [] => false
  | .lifetime _ :: .mark '+' :: _ => true
  | .lifetime _ :: _ => false
  | .literal _ :: _ => false
  | .mark '-' :: _ => false
  | .opening '\x7b' :: _ => false
  | .word "true" :: _ => false
  | .word "false" :: _ => false
  | tokens => upTo '=' tokens == tokens && upTo ':' tokens == tokens

/-- The type that is the first argument of a path that ends with the given name. -/
def argumentOf? (name text : String) : Option String :=
  (unqualified? (Token.ofText text)).bind fun tokens =>
    match read tokens with
    | .ok (read, []) =>
      (read.getLast?.filter fun last => last.name == name).bind fun last =>
        last.arguments.bind fun arguments =>
          (((items arguments).head?.map Item.tokens).filter isType).map written
    | _ => none

end PluginHost.TypePath
