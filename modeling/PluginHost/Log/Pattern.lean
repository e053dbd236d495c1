/-
This file holds the patterns that texts are held against. A pattern prefers some of its matches to
others, and a text fits if the match that is preferred to all others takes in the whole of it.
-/

namespace PluginHost.Log

/-- A set of characters, by its members or by what it leaves out. -/
inductive CharSet where
  | range (first last : Char)
  | union (one other : CharSet)
  | nothing
  | without (left : CharSet)
deriving DecidableEq, Repr

namespace CharSet

def only (c : Char) : CharSet := .range c c

def ofRanges (ranges : List (Char × Char)) : CharSet :=
  ranges.foldl (fun set range => .union set (.range range.1 range.2)) .nothing

def holds : CharSet → Char → Bool
  | .range first last, c => first ≤ c && c ≤ last
  | .union one other, c => one.holds c || other.holds c
  | .nothing, _ => false
  | .without left, c => !left.holds c

/-- The sets that have a name. -/
def named? (name : String) : Option CharSet :=
  let digit := [('0', '9')]
  let upper := [('A', 'Z')]
  let lower := [('a', 'z')]
  let marks := [('!', '/'), (':', '@'), ('[', '\x60'), ('\x7b', '~')]
  match name with
  | "alnum" => some (ofRanges (digit ++ upper ++ lower))
  | "alpha" => some (ofRanges (upper ++ lower))
  | "ascii" => some (ofRanges [('\x00', '\x7f')])
  | "blank" => some (ofRanges [('\t', '\t'), (' ', ' ')])
  | "cntrl" => some (ofRanges [('\x00', '\x1f'), ('\x7f', '\x7f')])
  | "digit" => some (ofRanges digit)
  | "graph" => some (ofRanges [('!', '~')])
  | "lower" => some (ofRanges lower)
  | "print" => some (ofRanges [(' ', '~')])
  | "punct" => some (ofRanges marks)
  | "space" => some (ofRanges [('\t', '\r'), (' ', ' ')])
  | "upper" => some (ofRanges upper)
  | "word" => some (ofRanges (digit ++ upper ++ lower ++ [('_', '_')]))
  | "xdigit" => some (ofRanges (digit ++ [('A', 'F'), ('a', 'f')]))
  | _ => none

end CharSet

/-- A repetition is eager if it prefers to go on. The border of a word is not looked for. -/
inductive Pattern where
  | empty
  | one (set : CharSet)
  | start
  | finish
  | border
  | inOrder (first second : Pattern)
  | either (preferred other : Pattern)
  | repeated (eager : Bool) (body : Pattern)
deriving DecidableEq, Repr

namespace Pattern

/-- The choice between a repetition and its end. -/
def preferring {α : Type} (eager : Bool) (more stop : List α) : List α :=
  if eager then more ++ stop else stop ++ more

/-- Goes on as long as characters are taken. -/
def iterate (step : List Char → List (List Char)) (eager : Bool) :
    Nat → List Char → List (List Char)
  | 0, rest => [rest]
  | fuel + 1, rest =>
    (preferring eager
      (((step rest).filter fun left => left.length < rest.length).flatMap
        (iterate step eager fuel)) [rest]).eraseDups

/-- What the matches leave of a text, the preferred one first. The size is that of the text as a
whole. -/
def rests (size : Nat) : Pattern → List Char → List (List Char)
  | .empty, rest => [rest]
  | .one _, [] => []
  | .one set, c :: rest => if set.holds c then [rest] else []
  | .start, rest => if rest.length = size then [rest] else []
  | .finish, rest => if rest.isEmpty then [rest] else []
  | .border, _ => []
  | .inOrder first second, rest => ((first.rests size rest).flatMap (second.rests size)).eraseDups
  | .either preferred other, rest => (preferred.rests size rest ++ other.rests size rest).eraseDups
  | .repeated eager body, rest => iterate (body.rests size) eager rest.length rest

def hasBorder : Pattern → Bool
  | .border => true
  | .inOrder first second => first.hasBorder || second.hasBorder
  | .either preferred other => preferred.hasBorder || other.hasBorder
  | .repeated _ body => body.hasBorder
  | _ => false

def fits (pattern : Pattern) (text : String) : Bool :=
  (pattern.rests text.length text.toList).head? == some []

end Pattern

/-- Why a text is no pattern that can be used. -/
inductive PatternError where
  | malformed
  | wordBoundary
deriving DecidableEq, Repr

def PatternError.message : PatternError → String
  | .malformed => "error building NFA"
  | .wordBoundary =>
    "unsupported regex feature for DFAs: cannot build DFAs for regexes with Unicode word " ++
      "boundaries; switch to ASCII word boundaries, or heuristically enable Unicode word " ++
      "boundaries or use a different regex engine"

namespace Pattern

/-- What holds for the characters that are read. -/
structure Mode where
  anyCase : Bool := false
  anyChar : Bool := false
  lazyFirst : Bool := false

abbrev Reading (α : Type) := Except PatternError (α × List Char)

def hexDigit? (c : Char) : Option Nat :=
  if c.isDigit then some (c.toNat - '0'.toNat)
  else if 'a' ≤ c.toLower && c.toLower ≤ 'f' then some (c.toLower.toNat - 'a'.toNat + 10)
  else none

def hexChar (digits : List Char) : Except PatternError Char :=
  match digits.mapM hexDigit? with
  | some (first :: others) =>
    let code := others.foldl (fun code digit => min 0x110000 (code * 16 + digit)) first
    if code.isValidChar then .ok (Char.ofNat code) else .error .malformed
  | _ => .error .malformed

/-- A character by its code point, in braces or with as many digits as its letter asks for. -/
def coded (digits : Nat) : List Char → Reading Char
  | '\x7b' :: rest =>
    match rest.dropWhile (· != '\x7d') with
    | _ :: after => (hexChar (rest.takeWhile (· != '\x7d'))).map fun c => (c, after)
    | [] => .error .malformed
  | rest =>
    if rest.length < digits then .error .malformed
    else (hexChar (rest.take digits)).map fun c => (c, rest.drop digits)

/-- A mark may be escaped, a letter or a digit only if it has a meaning. -/
def isEscapable (c : Char) : Bool :=
  c.toNat < 0x80 && !c.isAlphanum && c != '<' && c != '>'

/-- A character behind a backslash. -/
def escaped : List Char → Reading Char
  | [] => .error .malformed
  | 'n' :: rest => .ok ('\n', rest)
  | 't' :: rest => .ok ('\t', rest)
  | 'r' :: rest => .ok ('\r', rest)
  | 'a' :: rest => .ok ('\x07', rest)
  | 'f' :: rest => .ok ('\x0c', rest)
  | 'v' :: rest => .ok ('\x0b', rest)
  | 'x' :: rest => coded 2 rest
  | 'u' :: rest => coded 4 rest
  | 'U' :: rest => coded 8 rest
  | c :: rest => if isEscapable c then .ok (c, rest) else .error .malformed

def classChar : List Char → Reading Char
  | [] => .error .malformed
  | '\\' :: rest => escaped rest
  | c :: rest => .ok (c, rest)

/-- A dash makes a range, unless the set ends behind it. -/
def classRange (chars : List Char) : Reading CharSet :=
  (classChar chars).bind fun (first, rest) =>
    match rest with
    | '-' :: next :: after =>
      if next = ']' || next = '-' then .ok (.only first, rest)
      else
        (classChar (next :: after)).bind fun (last, rest) =>
          if first ≤ last then .ok (.range first last, rest) else .error .malformed
    | rest => .ok (.only first, rest)

/-- A set that has a name stands between colons. -/
def classNamed? (chars : List Char) : Option (CharSet × List Char) :=
  match chars with
  | '[' :: ':' :: rest =>
    let (isLeft, rest) := match rest with
      | '^' :: rest => (true, rest)
      | rest => (false, rest)
    let name := String.ofList (rest.takeWhile (· != ':'))
    match rest.dropWhile (· != ':') with
    | ':' :: ']' :: rest =>
      (CharSet.named? name).map fun set => (if isLeft then .without set else set, rest)
    | _ => none
  | _ => none

mutual

/-- What stands between brackets. A bracket that closes nothing yet is a character, and a set may
hold others. -/
def classItems (fuel : Nat) (set : CharSet) (isFirst : Bool) (chars : List Char) :
    Reading CharSet :=
  match fuel, chars with
  | 0, _ => .error .malformed
  | _, [] => .error .malformed
  | fuel + 1, c :: rest =>
    if c = ']' && !isFirst then .ok (set, rest)
    else
      match classNamed? chars with
      | some (item, rest) => classItems fuel (.union set item) false rest
      | none =>
        (if c = '[' then charClass fuel rest else classRange chars).bind fun (item, rest) =>
          classItems fuel (.union set item) false rest

def charClass (fuel : Nat) (chars : List Char) : Reading CharSet :=
  match fuel, chars with
  | 0, _ => .error .malformed
  | fuel + 1, '^' :: rest =>
    (classItems fuel .nothing true rest).map fun read => (.without read.1, read.2)
  | fuel + 1, rest => classItems fuel .nothing true rest

end

/-- The marks of repetition behind a part, each followed by a question mark if it is not eager. -/
def repetitions (mode : Mode) : Nat → Pattern → List Char → Pattern × List Char
  | 0, body, rest => (body, rest)
  | fuel + 1, body, chars =>
    let marked (rest : List Char) (build : Bool → Pattern) : Pattern × List Char :=
      match rest with
      | '?' :: rest => repetitions mode fuel (build mode.lazyFirst) rest
      | rest => repetitions mode fuel (build (!mode.lazyFirst)) rest
    match chars with
    | '*' :: rest => marked rest fun eager => .repeated eager body
    | '+' :: rest => marked rest fun eager => .inOrder body (.repeated eager body)
    | '?' :: rest =>
      marked rest fun eager => if eager then .either body .empty else .either .empty body
    | rest => (body, rest)

/-- The letters of a mode, switched on before a dash and off behind it. A text counts as one
line. -/
def modeLetters (on : Bool) (mode : Mode) : List Char → Reading Mode
  | 'i' :: rest => modeLetters on { mode with anyCase := on } rest
  | 's' :: rest => modeLetters on { mode with anyChar := on } rest
  | 'U' :: rest => modeLetters on { mode with lazyFirst := on } rest
  | 'm' :: rest => modeLetters on mode rest
  | 'u' :: rest => if on then modeLetters on mode rest else .error .malformed
  | '-' :: c :: rest =>
    if on && c.isAlpha then modeLetters false mode (c :: rest) else .error .malformed
  | rest => .ok (mode, rest)

/-- What stands behind an opening parenthesis: a name or a mode that the group begins with, or a
mode that holds from here on and makes no group. -/
inductive Opening where
  | group (mode : Mode)
  | mode (mode : Mode)

def named (mode : Mode) (chars : List Char) : Reading Opening :=
  match chars.takeWhile (· != '>'), chars.dropWhile (· != '>') with
  | first :: others, _ :: rest =>
    if (first.isAlpha || first == '_') && others.all fun c => c.isAlphanum || c == '_' then
      .ok (.group mode, rest)
    else .error .malformed
  | _, _ => .error .malformed

def opening (mode : Mode) : List Char → Reading Opening
  | '?' :: 'P' :: '<' :: rest => named mode rest
  | '?' :: '<' :: rest => named mode rest
  | '?' :: ':' :: rest => .ok (.group mode, rest)
  | '?' :: ')' :: _ => .error .malformed
  | '?' :: rest =>
    (modeLetters true mode rest).bind fun
      | (mode, ':' :: rest) => .ok (.group mode, rest)
      | (mode, ')' :: rest) => .ok (.mode mode, rest)
      | _ => .error .malformed
  | rest => .ok (.group mode, rest)

def anchor? : List Char → Option (Pattern × List Char)
  | '^' :: rest => some (.start, rest)
  | '$' :: rest => some (.finish, rest)
  | '\\' :: 'A' :: rest => some (.start, rest)
  | '\\' :: 'z' :: rest => some (.finish, rest)
  | '\\' :: c :: rest =>
    if c = 'b' || c = 'B' || c = '<' || c = '>' then some (.border, rest) else none
  | _ => none

/-- Which letters are the same but for their case is not known. -/
def sameCase (mode : Mode) (set : CharSet) : Except PatternError Pattern :=
  if mode.anyCase then .error .malformed else .ok (.one set)

/-- A single character of the pattern, or a set of them. -/
def single (mode : Mode) : List Char → Reading Pattern
  | [] => .error .malformed
  | '.' :: rest => .ok (.one (.without (if mode.anyChar then .nothing else .only '\n')), rest)
  | '[' :: rest =>
    (charClass (2 * rest.length + 2) rest).bind fun (set, rest) =>
      (sameCase mode set).map fun part => (part, rest)
  | '\\' :: rest =>
    (escaped rest).bind fun (c, rest) => (sameCase mode (.only c)).map fun part => (part, rest)
  | c :: rest =>
    if c = '*' || c = '+' || c = '?' || c = '\x7b' then .error .malformed
    else (sameCase mode (.only c)).map fun part => (part, rest)

/-- Reads alternatives up to a closing parenthesis or the end. Every step passes a character. -/
def alternatives (fuel : Nat) (mode : Mode) (before : Pattern) (chars : List Char) :
    Reading Pattern :=
  match fuel with
  | 0 => .error .malformed
  | fuel + 1 =>
    let go (part : Pattern) (rest : List Char) : Reading Pattern :=
      let (part, rest) := repetitions mode rest.length part rest
      alternatives fuel mode (.inOrder before part) rest
    match chars with
    | [] => .ok (before, [])
    | ')' :: _ => .ok (before, chars)
    | '|' :: rest =>
      (alternatives fuel mode .empty rest).map fun read => (.either before read.1, read.2)
    | '(' :: rest =>
      (opening mode rest).bind fun
        | (.mode mode, rest) => alternatives fuel mode before rest
        | (.group inner, rest) =>
          (alternatives fuel inner .empty rest).bind fun
            | (body, ')' :: rest) => go body rest
            | _ => .error .malformed
    | chars =>
      match anchor? chars with
      | some (part, rest) => go part rest
      | none => (single mode chars).bind fun (part, rest) => go part rest

def read (text : String) : Except PatternError Pattern :=
  (alternatives (text.length + 1) {} .empty text.toList).bind fun
    | (pattern, []) => if pattern.hasBorder then .error .wordBoundary else .ok pattern
    | _ => .error .malformed

end Pattern

end PluginHost.Log
