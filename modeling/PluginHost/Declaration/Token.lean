import PluginHost.Text.Blank
import PluginHost.Text.Quoted

/-
This file cuts the text of a declaration into tokens. Blanks and comments only part the tokens, and
what stands in quotes is one token whatever it holds.
-/

namespace PluginHost

/-- Brackets are tokens of their own. An angle is a mark, since it need not be a bracket. -/
inductive Token where
  | word (text : String)
  | lifetime (text : String)
  | literal (text : String)
  | colons
  | arrow
  | mark (sign : Char)
  | opening (bracket : Char)
  | closing (bracket : Char)
deriving DecidableEq, Repr

namespace Token

def text : Token → String
  | .word text => text
  | .lifetime text => text
  | .literal text => text
  | .colons => "::"
  | .arrow => "->"
  | .mark sign => String.singleton sign
  | .opening bracket => String.singleton bracket
  | .closing bracket => String.singleton bracket

/-- Tokens are written without blanks, those inside of quotes included. -/
def written (tokens : List Token) : String :=
  String.ofList ((String.join (tokens.map text)).toList.filter (!Text.isBlank ·))

/-- Marks of the direction of writing part tokens as blanks do. -/
def isGap (c : Char) : Bool := Text.isBlank c || c == '\u200e' || c == '\u200f'

def isWordChar (c : Char) : Bool :=
  c.isAlphanum || c == '_' || (0x80 ≤ c.toNat && !isGap c)

/-- What stands up to the closing quote, which is included, and what stands behind it. -/
def quotedPart (quote : Char) : List Char → List Char × List Char
  | [] => ([], [])
  | '\\' :: c :: rest =>
    let (part, rest) := quotedPart quote rest
    ('\\' :: c :: part, rest)
  | c :: rest =>
    if c = quote then ([c], rest)
    else
      let (part, rest) := quotedPart quote rest
      (c :: part, rest)

/-- Nothing is escaped, and the closing quote is followed by as many hashes as the opening one
follows. -/
def rawPart (hashes : List Char) : List Char → List Char × List Char
  | [] => ([], [])
  | c :: rest =>
    if c = '"' && hashes.isPrefixOf rest then (c :: hashes, rest.drop hashes.length)
    else
      let (part, rest) := rawPart hashes rest
      (c :: part, rest)

/-- What stands in a comment, which may hold others, and what stands behind it. -/
def comment (depth : Nat) : List Char → List Char × List Char
  | [] => ([], [])
  | '/' :: '*' :: rest =>
    let (part, rest) := comment (depth + 1) rest
    ('/' :: '*' :: part, rest)
  | '*' :: '/' :: rest =>
    match depth with
    | 0 => ([], rest)
    | depth + 1 =>
      let (part, rest) := comment depth rest
      ('*' :: '/' :: part, rest)
  | c :: rest =>
    let (part, rest) := comment depth rest
    (c :: part, rest)

/-- A text, a single character or a number. A single quote that is not closed behind one character
begins a lifetime. -/
def literal? (chars : List Char) : Option (List Char × List Char) :=
  let (letter, unlettered) := match chars with
    | 'b' :: rest => (['b'], rest)
    | 'c' :: rest => (['c'], rest)
    | rest => ([], rest)
  match unlettered with
  | '"' :: rest =>
    let (part, rest) := quotedPart '"' rest
    some (letter ++ '"' :: part, rest)
  | 'r' :: rest =>
    let hashes := rest.takeWhile (· == '#')
    match rest.drop hashes.length with
    | '"' :: rest =>
      let (part, rest) := rawPart hashes rest
      some (letter ++ 'r' :: hashes ++ '"' :: part, rest)
    | _ => none
  | '\'' :: '\\' :: rest =>
    let (part, rest) := quotedPart '\'' ('\\' :: rest)
    some (letter ++ '\'' :: part, rest)
  | '\'' :: c :: '\'' :: rest => some (letter ++ ['\'', c, '\''], rest)
  | c :: _ =>
    if letter.isEmpty && c.isDigit then
      some (chars.takeWhile isWordChar, chars.dropWhile isWordChar)
    else none
  | [] => none

/-- A comment that documents what follows is an attribute of it. -/
def documented (text : List Char) : List Token :=
  [.mark '#', .opening '[', .word "doc", .mark '=', .literal (Text.quoted (String.ofList text)),
    .closing ']']

def lineComment (chars : List Char) : List Token × List Char :=
  let line := chars.takeWhile (· != '\n')
  let rest := chars.dropWhile (· != '\n')
  match line with
  | '/' :: '/' :: _ => ([], rest)
  | '/' :: text => (documented text, rest)
  | _ => ([], rest)

def blockComment (chars : List Char) : List Token × List Char :=
  let (text, rest) := comment 0 chars
  match text with
  | ['*'] => ([], rest)
  | '*' :: '*' :: _ => ([], rest)
  | '*' :: text => (documented text, rest)
  | _ => ([], rest)

/-- The tokens that a text begins with, which are none for blanks and comments. -/
def first (c : Char) (rest : List Char) : List Token × List Char :=
  match literal? (c :: rest) with
  | some (part, rest) => ([.literal (String.ofList part)], rest)
  | none =>
    let word (rest : List Char) : String := String.ofList (rest.takeWhile isWordChar)
    match c, rest with
    | '/', '/' :: rest => lineComment rest
    | '/', '*' :: rest => blockComment rest
    | ':', ':' :: rest => ([.colons], rest)
    | '-', '>' :: rest => ([.arrow], rest)
    | '\'', rest => ([.lifetime ("'" ++ word rest)], rest.dropWhile isWordChar)
    | 'r', '#' :: rest => ([.word ("r#" ++ word rest)], rest.dropWhile isWordChar)
    | c, rest =>
      if isGap c then ([], rest)
      else if isWordChar c then ([.word (word (c :: rest))], rest.dropWhile isWordChar)
      else if c = '(' || c = '[' || c = '\x7b' then ([.opening c], rest)
      else if c = ')' || c = ']' || c = '\x7d' then ([.closing c], rest)
      else ([.mark c], rest)

/-- Each step passes a character at least. -/
def read (fuel : Nat) (chars : List Char) : List Token :=
  match fuel, chars with
  | fuel + 1, c :: rest =>
    let (tokens, rest) := first c rest
    tokens ++ read fuel rest
  | _, _ => []

def ofText (text : String) : List Token := read text.length text.toList

end Token

end PluginHost
