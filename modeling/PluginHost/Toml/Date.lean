import PluginHost.Toml.Scan

/-
This file reads dates and times of TOML and writes them in one form: a `T` between date and time,
no zeros at the end of a fraction, and no minus sign in front of an offset of zero.
-/

namespace PluginHost.Toml

/-- A fixed number of digits within bounds. -/
def field? (size least most : Nat) : Reader Nat := fun chars =>
  let digits := chars.take size
  let value := digits.foldl (fun value c => value * 10 + (c.toNat - '0'.toNat)) 0
  if digits.length = size && digits.all Char.isDigit && least ≤ value && value ≤ most then
    some (value, chars.drop size)
  else none

def mark? (c : Char) : Reader Unit
  | d :: rest => if c = d then some ((), rest) else none
  | [] => none

def isLeapYear (year : Nat) : Bool := (year % 4 == 0 && year % 100 != 0) || year % 400 == 0

def daysIn (year month : Nat) : Nat :=
  if month = 2 then if isLeapYear year then 29 else 28
  else if month = 4 || month = 6 || month = 9 || month = 11 then 30
  else 31

/-- Decimal digits with zeros in front. -/
def padded (size value : Nat) : String :=
  let digits := Nat.toDigits 10 value
  String.ofList (List.replicate (size - digits.length) '0' ++ digits)

def date? : Reader String := fun chars => do
  let (year, chars) ← field? 4 0 9999 chars
  let (_, chars) ← mark? '-' chars
  let (month, chars) ← field? 2 1 12 chars
  let (_, chars) ← mark? '-' chars
  let (day, chars) ← field? 2 1 (daysIn year month) chars
  return (padded 4 year ++ "-" ++ padded 2 month ++ "-" ++ padded 2 day, chars)

/-- Nine digits of a fraction are kept. -/
def fractionText (digits : List Char) : String :=
  let kept := ((digits.take 9).reverse.dropWhile (· == '0')).reverse
  if kept.isEmpty then "" else "." ++ String.ofList kept

/-- A second may be a leap second. -/
def time? : Reader String := fun chars => do
  let (hour, chars) ← field? 2 0 23 chars
  let (_, chars) ← mark? ':' chars
  let (minute, chars) ← field? 2 0 59 chars
  let (_, chars) ← mark? ':' chars
  let (second, chars) ← field? 2 0 60 chars
  let whole := padded 2 hour ++ ":" ++ padded 2 minute ++ ":" ++ padded 2 second
  match chars with
  | '.' :: rest =>
    let digits := rest.takeWhile Char.isDigit
    if digits.isEmpty then none
    else return (whole ++ fractionText digits, rest.dropWhile Char.isDigit)
  | chars => return (whole, chars)

/-- A negative offset of zero is a positive one. -/
def offset? : Reader String
  | 'Z' :: rest => some ("Z", rest)
  | 'z' :: rest => some ("Z", rest)
  | sign :: rest =>
    if sign = '+' || sign = '-' then do
      let (hour, rest) ← field? 2 0 23 rest
      let (_, rest) ← mark? ':' rest
      let (minute, rest) ← field? 2 0 59 rest
      let shown := if hour = 0 && minute = 0 then "+" else String.singleton sign
      return (shown ++ padded 2 hour ++ ":" ++ padded 2 minute, rest)
    else none
  | [] => none

/-- A date with a time may have an offset. -/
def timeAfter? (date : String) : Reader String := fun chars => do
  let (time, chars) ← time? chars
  match offset? chars with
  | some (offset, rest) => return (date ++ "T" ++ time ++ offset, rest)
  | none => return (date ++ "T" ++ time, chars)

/-- A blank between date and time is read as such only when a time follows. -/
def moment? : Reader String := fun chars =>
  match date? chars with
  | some (date, rest) =>
    match rest with
    | 'T' :: time => timeAfter? date time
    | 't' :: time => timeAfter? date time
    | ' ' :: time => (timeAfter? date time).or (some (date, rest))
    | rest => some (date, rest)
  | none => time? chars

end PluginHost.Toml
