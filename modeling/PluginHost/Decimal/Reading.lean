/-
This file reads decimal notation as the nearest double.
-/

namespace PluginHost.Decimal

def digitsValue (digits : List Char) : Nat :=
  digits.foldl (fun value c => value * 10 + (c.toNat - '0'.toNat)) 0

/-- The number `significand * 10 ^ exponent`, rounded to the nearest double. Exponents that leave
the range of the doubles are cut off before the power is formed. -/
def nearest (significand : Nat) (exponent : Int) : Float :=
  let size := Int.ofNat (toString significand).length + exponent
  if significand = 0 || size < -400 then 0.0
  else if size > 400 then 1.0 / 0.0
  else Float.ofScientific significand (exponent < 0) exponent.natAbs

def takeSign : List Char → Bool × List Char
  | '-' :: rest => (true, rest)
  | '+' :: rest => (false, rest)
  | rest => (false, rest)

/-- An exponent mark must be followed by a digit and nothing else. -/
def exponent? : List Char → Option Int
  | [] => some 0
  | mark :: rest =>
    if mark = 'e' || mark = 'E' then
      let (negative, digits) := takeSign rest
      let size := Int.ofNat (digitsValue digits)
      if digits.isEmpty || !digits.all Char.isDigit then none
      else some (if negative then -size else size)
    else none

/-- A point needs a digit on one of its sides. -/
def float? (text : List Char) : Option Float :=
  let (negative, unsigned) := takeSign text
  let whole := unsigned.takeWhile Char.isDigit
  let afterWhole := unsigned.dropWhile Char.isDigit
  let (fraction, rest) := match afterWhole with
    | '.' :: tail => (tail.takeWhile Char.isDigit, tail.dropWhile Char.isDigit)
    | tail => ([], tail)
  if whole.isEmpty && fraction.isEmpty then none
  else
    (exponent? rest).map fun exponent =>
      let size := nearest (digitsValue (whole ++ fraction)) (exponent - Int.ofNat fraction.length)
      if negative then -size else size

/-- Digits alone, after an optional plus sign. -/
def natural? (text : List Char) : Option Nat :=
  let digits := match text with
    | '+' :: rest => rest
    | rest => rest
  if digits.isEmpty || !digits.all Char.isDigit then none else some (digitsValue digits)

/-- Digits after an optional sign. -/
def integer? (text : List Char) : Option Int :=
  let (negative, digits) := takeSign text
  if digits.isEmpty || !digits.all Char.isDigit then none
  else some (if negative then -Int.ofNat (digitsValue digits) else Int.ofNat (digitsValue digits))

end PluginHost.Decimal
