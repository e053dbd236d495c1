import PluginHost.Toml.Text
import PluginHost.Toml.Number
import PluginHost.Toml.Date
import PluginHost.Toml.Branch

/-
This file reads TOML text as a document.
-/

namespace PluginHost.Toml

/-- The entry under which a date is kept. -/
def dateKey : String := "$__toml_private_datetime"

def isWordChar (c : Char) : Bool := c.isAlphanum || c == '+' || c == '-' || c == '_' || c == '.'

/-- Dates come before numbers, since both start with digits. -/
def scalar? (origin : Option Origin) (chars : List Char) : Option (Document × List Char) :=
  match moment? chars with
  | some (moment, rest) => some (.table origin [(dateKey, .text origin moment)], rest)
  | none =>
    let word := chars.takeWhile isWordChar
    let rest := chars.dropWhile isWordChar
    match String.ofList word with
    | "true" => some (.leaf origin (.flag true), rest)
    | "false" => some (.leaf origin (.flag false), rest)
    | _ => (number? word).map fun number => (.leaf origin number, rest)

/-- The key of an entry, split into the way to its table and the name in it. -/
def splitKey (key : List String) : List String × String := (key.dropLast, (key.getLast?).getD "")

mutual

/-- The depth counts the brackets that are still allowed to open. Every reader is given enough
fuel for the rest of the text. -/
def value? (origin : Option Origin) (fuel depth : Nat) (chars : List Char) :
    Option (Document × List Char) :=
  match fuel with
  | 0 => none
  | fuel + 1 =>
    match chars, depth with
    | '[' :: _, 0 => none
    | '\x7b' :: _, 0 => none
    | '[' :: rest, depth + 1 =>
      (items? origin fuel depth (skipAll rest.length rest)).map fun read =>
        (.list origin read.1, read.2)
    | '\x7b' :: rest, depth + 1 =>
      match skipSpace rest with
      | '\x7d' :: rest => some (.table origin [], rest)
      | rest =>
        (members? origin fuel depth [] rest).map fun read =>
          (.table origin (Branch.documents origin read.1), read.2)
    | chars, _ =>
      match text? chars with
      | some (text, rest) => some (.text origin text, rest)
      | none => scalar? origin chars

/-- A comma may stand behind the last item. -/
def items? (origin : Option Origin) (fuel depth : Nat) (chars : List Char) :
    Option (List Document × List Char) :=
  match fuel with
  | 0 => none
  | fuel + 1 =>
    match chars with
    | ']' :: rest => some ([], rest)
    | chars =>
      (value? origin fuel depth chars).bind fun (item, rest) =>
        match skipAll rest.length rest with
        | ',' :: rest =>
          (items? origin fuel depth (skipAll rest.length rest)).map fun read =>
            (item :: read.1, read.2)
        | ']' :: rest => some ([item], rest)
        | _ => none

/-- The members of an inline table stand on one line, with a comma between two of them. -/
def members? (origin : Option Origin) (fuel depth : Nat) (entries : Entries)
    (chars : List Char) : Option (Entries × List Char) :=
  match fuel with
  | 0 => none
  | fuel + 1 =>
    (key? chars).bind fun (key, rest) =>
      match rest with
      | '=' :: rest =>
        (value? origin fuel depth (skipSpace rest)).bind fun (value, rest) =>
          (entries.assign (splitKey key).1 (splitKey key).2 value).bind fun entries =>
            match skipSpace rest with
            | ',' :: rest => members? origin fuel depth entries rest
            | '\x7d' :: rest => some (entries, rest)
            | _ => none
      | _ => none

end

/-- The tables read so far, and the header under which keys are set. -/
structure Progress where
  entries : Entries := []
  header : List String := []

/-- A header ends with as many brackets as it starts with. -/
def header? (progress : Progress) (chars : List Char) : Option (Progress × List Char) :=
  match chars with
  | '[' :: '[' :: rest => do
    let (key, rest) ← key? rest
    let (_, rest) ← mark? ']' rest
    let (_, rest) ← mark? ']' rest
    let entries ← progress.entries.append (splitKey key).1 (splitKey key).2
    return (⟨entries, key⟩, rest)
  | '[' :: rest => do
    let (key, rest) ← key? rest
    let (_, rest) ← mark? ']' rest
    let entries ← progress.entries.define (splitKey key).1 (splitKey key).2
    return (⟨entries, key⟩, rest)
  | _ => none

def assignment? (origin : Option Origin) (progress : Progress) (chars : List Char) :
    Option (Progress × List Char) := do
  let (key, rest) ← key? chars
  let (_, rest) ← mark? '=' rest
  let rest := skipSpace rest
  let (value, rest) ← value? origin (2 * rest.length + 2) (depthLimit - 1) rest
  let entries ←
    progress.entries.assignBelow progress.header (splitKey key).1 (splitKey key).2 value
  return ({ progress with entries := entries }, rest)

/-- Every statement has its own line. -/
def statements? (origin : Option Origin) : Nat → Progress → List Char → Option Entries
  | 0, _, _ => none
  | fuel + 1, progress, chars =>
    match skipSpace chars with
    | [] => some progress.entries
    | '#' :: rest => do
      let rest ← restOfLine? ('#' :: rest)
      statements? origin fuel progress rest
    | c :: rest =>
      match newline? (c :: rest) with
      | some rest => statements? origin fuel progress rest
      | none => do
        let (progress, rest) ←
          if c = '[' then header? progress (c :: rest)
          else assignment? origin progress (c :: rest)
        let rest ← restOfLine? rest
        statements? origin fuel progress rest

/-- A byte order mark may stand in front of the text. -/
def withoutMark : List Char → List Char
  | '\ufeff' :: rest => rest
  | chars => chars

/-- Reads a whole text; `none` is a syntax error. -/
def read? (origin : Option Origin) (text : String) : Option Document :=
  let chars := withoutMark text.toList
  (statements? origin (chars.length + 1) {} chars).map fun entries =>
    .table origin (Branch.documents origin entries)

end PluginHost.Toml
