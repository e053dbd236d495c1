import PluginHost.Decimal.Limit
import PluginHost.Json.Basic

/-
This file reads configuration values from their compact text. A number without a point or an
exponent stays an integer as long as 64 bits hold it; every other number is a double.
-/

namespace PluginHost.Json

/-- Digits are taken into the significand until 64 bits no longer hold it; the rest is returned. -/
def takeDigits (significand : Nat) : List Char → Nat × List Char
  | [] => (significand, [])
  | c :: rest =>
    let larger := significand * 10 + (c.toNat - '0'.toNat)
    if larger < Limit.word64 then takeDigits larger rest else (significand, c :: rest)

/-- Scales by one power of ten at a time, none of them beyond the largest that a double holds. -/
def scale (value : Float) (exponent : Int) : Option Float :=
  let power (n : Nat) := Float.ofScientific 1 false n
  if value == 0.0 then some value
  else if 308 < exponent then none
  else if 0 ≤ exponent then
    let scaled := value * power exponent.toNat
    if scaled.isInf then none else some scaled
  else
    let steps := ((-exponent).toNat - 1) / 308 + 1
    if 3 < steps then some 0.0
    else
      some <| (List.range steps).foldl (fun (state : Float × Nat) _ =>
        let step := min state.2 308
        (state.1 / power step, state.2 - step)) (value, (-exponent).toNat) |>.1

/-- The parts of a number as they are written. -/
structure NumberText where
  negative : Bool
  whole : List Char
  fraction : Option (List Char)
  exponent : Option (Bool × List Char)

namespace NumberText

/-- A leading zero stands alone, and a point and an exponent mark need digits after them. -/
def isWellFormed (text : NumberText) : Bool :=
  text.whole != [] && (text.whole.head? != some '0' || text.whole.length == 1) &&
    text.fraction != some [] && (text.exponent.map Prod.snd) != some []

def split (chars : List Char) : NumberText × List Char :=
  let (negative, chars) := match chars with
    | '-' :: rest => (true, rest)
    | rest => (false, rest)
  let whole := chars.takeWhile Char.isDigit
  let chars := chars.dropWhile Char.isDigit
  let (fraction, chars) := match chars with
    | '.' :: rest => (some (rest.takeWhile Char.isDigit), rest.dropWhile Char.isDigit)
    | rest => (none, rest)
  let power (negative : Bool) (rest : List Char) :=
    (some (negative, rest.takeWhile Char.isDigit), rest.dropWhile Char.isDigit)
  let (exponent, chars) := match chars with
    | 'e' :: '-' :: rest => power true rest
    | 'E' :: '-' :: rest => power true rest
    | 'e' :: '+' :: rest => power false rest
    | 'E' :: '+' :: rest => power false rest
    | 'e' :: rest => power false rest
    | 'E' :: rest => power false rest
    | rest => (none, rest)
  (⟨negative, whole, fraction, exponent⟩, chars)

/-- The double is formed from the significand and the power of ten, in double arithmetic. -/
def decimal? (text : NumberText) : Option Float :=
  let (significand, dropped) := takeDigits 0 text.whole
  let fraction := text.fraction.getD []
  let (significand, unused) := takeDigits significand fraction
  let written := match text.exponent with
    | none => 0
    | some (negative, digits) =>
      let size : Int := (digits.foldl (fun n c => n * 10 + (c.toNat - '0'.toNat)) 0 : Nat)
      if negative then -size else size
  let shift : Int := (dropped.length : Int) - ((fraction.length - unused.length : Nat) : Int)
  (scale (Float.ofNat significand) (written + shift)).map fun value =>
    if text.negative then -value else value

/-- Zero with a minus sign is no integer. -/
def json? (text : NumberText) : Option Json :=
  if !text.isWellFormed then none
  else
    let (significand, dropped) := takeDigits 0 text.whole
    let plain := text.fraction.isNone && text.exponent.isNone && dropped.isEmpty
    if plain && !text.negative then some (.integer significand)
    else if plain && 0 < significand && significand ≤ Limit.signed64 then
      some (.integer (-(significand : Int)))
    else text.decimal?.map .decimal

end NumberText

def hexDigit? (c : Char) : Option Nat :=
  if c.isDigit then some (c.toNat - '0'.toNat)
  else if 'a' ≤ c && c ≤ 'f' then some (c.toNat - 'a'.toNat + 10)
  else if 'A' ≤ c && c ≤ 'F' then some (c.toNat - 'A'.toNat + 10)
  else none

def hexValue? (digits : List Char) : Option Nat :=
  digits.foldlM (fun value c => (hexDigit? c).map fun digit => value * 16 + digit) 0

def shortEscape? : Char → Option Char
  | '"' => some '"'
  | '\\' => some '\\'
  | '/' => some '/'
  | 'b' => some '\x08'
  | 'f' => some '\x0c'
  | 'n' => some '\n'
  | 'r' => some '\r'
  | 't' => some '\t'
  | _ => none

/-- Reads up to the closing quote. Two escaped halves make one character. -/
def textTail : List Char → Option (List Char × List Char)
  | [] => none
  | '"' :: rest => some ([], rest)
  | '\\' :: 'u' :: a :: b :: c :: d :: rest => do
    let unit ← hexValue? [a, b, c, d]
    if 0xD800 ≤ unit && unit < 0xDC00 then
      match rest with
      | '\\' :: 'u' :: e :: f :: g :: h :: rest =>
        let low ← hexValue? [e, f, g, h]
        if 0xDC00 ≤ low && low < 0xE000 then
          let (chars, rest) ← textTail rest
          return (Char.ofNat (0x10000 + (unit - 0xD800) * 0x400 + (low - 0xDC00)) :: chars, rest)
        else none
      | _ => none
    else if 0xDC00 ≤ unit && unit < 0xE000 then none
    else
      let (chars, rest) ← textTail rest
      return (Char.ofNat unit :: chars, rest)
  | '\\' :: c :: rest => do
    let escaped ← shortEscape? c
    let (chars, rest) ← textTail rest
    return (escaped :: chars, rest)
  | c :: rest =>
    if c.toNat < 0x20 then none
    else do
      let (chars, rest) ← textTail rest
      return (c :: chars, rest)

def isSpace (c : Char) : Bool := c == ' ' || c == '\t' || c == '\n' || c == '\r'

def skipSpace (chars : List Char) : List Char := chars.dropWhile isSpace

def keyword? (word : String) (value : Json) (chars : List Char) : Option (Json × List Char) :=
  if word.toList.isPrefixOf chars then some (value, chars.drop word.length) else none

mutual

/-- Each value takes one unit of fuel for itself and one for each of its members. -/
def valueAt (fuel : Nat) (chars : List Char) : Option (Json × List Char) :=
  match fuel with
  | 0 => none
  | fuel + 1 =>
    match skipSpace chars with
    | '"' :: rest => (textTail rest).map fun read => (.text (String.ofList read.1), read.2)
    | '[' :: rest =>
      match skipSpace rest with
      | ']' :: rest => some (.list [], rest)
      | rest => (itemsAt fuel rest).map fun read => (.list read.1, read.2)
    | '\x7b' :: rest =>
      match skipSpace rest with
      | '\x7d' :: rest => some (.object [], rest)
      | rest => (membersAt fuel rest).map fun read => (.ofMembers read.1, read.2)
    | 'n' :: rest => keyword? "null" .null ('n' :: rest)
    | 't' :: rest => keyword? "true" (.flag true) ('t' :: rest)
    | 'f' :: rest => keyword? "false" (.flag false) ('f' :: rest)
    | rest =>
      let (number, rest) := NumberText.split rest
      number.json?.map fun value => (value, rest)

def itemsAt (fuel : Nat) (chars : List Char) : Option (List Json × List Char) :=
  match fuel with
  | 0 => none
  | fuel + 1 =>
    (valueAt fuel chars).bind fun (item, rest) =>
      match skipSpace rest with
      | ',' :: rest => (itemsAt fuel rest).map fun read => (item :: read.1, read.2)
      | ']' :: rest => some ([item], rest)
      | _ => none

def membersAt (fuel : Nat) (chars : List Char) :
    Option (List (String × Json) × List Char) :=
  match fuel with
  | 0 => none
  | fuel + 1 =>
    match skipSpace chars with
    | '"' :: rest =>
      (textTail rest).bind fun (name, rest) =>
        match skipSpace rest with
        | ':' :: rest =>
          (valueAt fuel rest).bind fun (value, rest) =>
            let member := (String.ofList name, value)
            match skipSpace rest with
            | ',' :: rest => (membersAt fuel rest).map fun read => (member :: read.1, read.2)
            | '\x7d' :: rest => some ([member], rest)
            | _ => none
        | _ => none
    | _ => none

end

/-- A text holds one value and blanks around it. -/
def parse? (text : String) : Option Json :=
  let chars := text.toList
  match valueAt (2 * chars.length + 1) chars with
  | some (value, rest) => if (skipSpace rest).isEmpty then some value else none
  | none => none

end PluginHost.Json
