import PluginHost.Toml.Scan
import PluginHost.Decimal.Limit
import PluginHost.Decimal.Reading
import PluginHost.Settings.Document

/-
This file reads the numbers of TOML. An integer has 64 bits; underscores may stand between digits.
-/

namespace PluginHost.Toml

/-- The digits without their underscores. An underscore stands between two digits. -/
def digits? (isDigit : Char → Bool) : List Char → Option (List Char)
  | [] => none
  | [c] => if isDigit c then some [c] else none
  | c :: '_' :: rest =>
    if isDigit c then (digits? isDigit rest).map (c :: ·) else none
  | c :: rest => if isDigit c then (digits? isDigit rest).map (c :: ·) else none

def digitValue (c : Char) : Nat := (Json.hexDigit? c).getD 0

def valueIn (base : Nat) (digits : List Char) : Nat :=
  digits.foldl (fun value c => value * base + digitValue c) 0

/-- The smallest integer has no positive counterpart. -/
def signed? (negative : Bool) (size : Nat) : Option Int :=
  if negative then if size ≤ Limit.signed64 then some (-(size : Int)) else none
  else if size < Limit.signed64 then some size else none

/-- A whole part of more than one digit starts with no zero. -/
def whole? (chars : List Char) : Option (List Char) :=
  (digits? Char.isDigit chars).filter fun digits =>
    digits.length == 1 || digits.head? != some '0'

/-- Digits in another base have a mark in front and no sign. -/
def based? (base : Nat) (isDigit : Char → Bool) (chars : List Char) : Option Int :=
  (digits? isDigit chars).bind fun digits => signed? false (valueIn base digits)

def integer? : List Char → Option Int
  | '0' :: 'x' :: rest => based? 16 (fun c => (Json.hexDigit? c).isSome) rest
  | '0' :: 'o' :: rest => based? 8 (fun c => '0' ≤ c && c ≤ '7') rest
  | '0' :: 'b' :: rest => based? 2 (fun c => c == '0' || c == '1') rest
  | chars =>
    let (negative, rest) := Decimal.takeSign chars
    (whole? rest).bind fun digits => signed? negative (valueIn 10 digits)

def special? : List Char → Option Float
  | ['i', 'n', 'f'] => some (1.0 / 0.0)
  | ['n', 'a', 'n'] => some (0.0 / 0.0)
  | _ => none

/-- The exponent behind its mark may start with zeros. -/
def exponent? : List Char → Option Int
  | [] => some 0
  | mark :: rest =>
    if mark = 'e' || mark = 'E' then
      let (negative, rest) := Decimal.takeSign rest
      (digits? Char.isDigit rest).map fun digits =>
        if negative then -(valueIn 10 digits : Int) else (valueIn 10 digits : Int)
    else none

/-- A number too large for a double is refused when it is positive, and infinite when it is
negative. -/
def finite? (chars : List Char) : Option Float :=
  let (negative, rest) := Decimal.takeSign chars
  let isMark (c : Char) := c == 'e' || c == 'E'
  let whole := rest.takeWhile fun c => c != '.' && !isMark c
  let rest := rest.dropWhile fun c => c != '.' && !isMark c
  let parts := match rest with
    | '.' :: rest => (some (rest.takeWhile (!isMark ·)), rest.dropWhile (!isMark ·))
    | rest => (none, rest)
  if parts.1.isNone && parts.2.isEmpty then none
  else do
    let whole ← whole? whole
    let fraction ← parts.1.elim (some []) (digits? Char.isDigit)
    let exponent ← exponent? parts.2
    let size := Decimal.nearest (valueIn 10 (whole ++ fraction)) (exponent - fraction.length)
    if negative then some (-size) else if size.isInf then none else some size

def float? (chars : List Char) : Option Float :=
  let (negative, rest) := Decimal.takeSign chars
  match special? rest with
  | some size => some (if negative then -size else size)
  | none => finite? chars

/-- Reads a whole word as a number. -/
def number? (word : List Char) : Option Scalar :=
  ((float? word).map Scalar.float).or ((integer? word).map Scalar.signed)

end PluginHost.Toml
