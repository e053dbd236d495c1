import PluginHost.Json.Reading

/-
This file reads the parts of TOML text that carry no value: blanks, comments and line ends. Each
reader returns what it read and the rest of the text.
-/

namespace PluginHost.Toml

/-- A reader fails with `none`, and a failure is an error of the whole text. -/
abbrev Reader (α : Type) := List Char → Option (α × List Char)

def isSpace (c : Char) : Bool := c == ' ' || c == '\t'

def skipSpace (chars : List Char) : List Char := chars.dropWhile isSpace

/-- Control characters other than the tab may stand nowhere. -/
def isPrintable (c : Char) : Bool := c == '\t' || (0x20 ≤ c.toNat && c.toNat != 0x7F)

/-- A carriage return counts only in front of a line feed. -/
def newline? : List Char → Option (List Char)
  | '\n' :: rest => some rest
  | '\r' :: '\n' :: rest => some rest
  | _ => none

/-- The end of the text ends a line too. -/
def lineEnd? (chars : List Char) : Option (List Char) :=
  if chars.isEmpty then some [] else newline? chars

/-- A comment runs to the end of its line. -/
def skipComment : List Char → List Char
  | '#' :: rest => rest.dropWhile isPrintable
  | rest => rest

/-- What may follow a statement on its line. -/
def restOfLine? (chars : List Char) : Option (List Char) :=
  lineEnd? (skipComment (skipSpace chars))

/-- Skips blanks, line ends and whole comments. A comment has to be ended by a line end. -/
def skipLines : List Char → List Char
  | ' ' :: rest => skipLines rest
  | '\t' :: rest => skipLines rest
  | '\n' :: rest => skipLines rest
  | '\r' :: '\n' :: rest => skipLines rest
  | rest => rest

/-- One unit of fuel is taken for each comment. -/
def skipAll : Nat → List Char → List Char
  | 0, chars => chars
  | fuel + 1, chars =>
    match skipLines chars with
    | '#' :: rest =>
      match newline? (rest.dropWhile isPrintable) with
      | some rest => skipAll fuel rest
      | none => '#' :: rest
    | rest => rest

end PluginHost.Toml
