import PluginHost.Decimal.Shortest

/-
This file writes a double by its shortest digits in the two layouts of the program: the plain one
never uses an exponent, the compact one does so for very large and very small numbers.
-/

namespace PluginHost.Decimal

def zeros (count : Nat) : String := String.ofList (List.replicate count '0')

/-- Every digit of the number is written out. -/
def Digits.positional (number : Digits) (keepPoint : Bool) : String :=
  let digits := toString number.digits
  let length := Int.ofNat digits.length
  if number.exponent ≥ 0 then
    digits ++ zeros number.exponent.toNat ++ (if keepPoint then ".0" else "")
  else if length + number.exponent > 0 then
    let whole := (length + number.exponent).toNat
    String.ofList (digits.toList.take whole) ++ "." ++ String.ofList (digits.toList.drop whole)
  else
    "0." ++ zeros (-(length + number.exponent)).toNat ++ digits

/-- One digit stands before the point, and the exponent has a sign. -/
def Digits.scientific (number : Digits) : String :=
  let digits := (toString number.digits).toList
  let power := Int.ofNat digits.length + number.exponent - 1
  let point := match digits with
    | [] => []
    | [lead] => [lead]
    | lead :: rest => lead :: '.' :: rest
  String.ofList point ++ (if power < 0 then "e-" else "e+") ++ toString power.natAbs

/-- The exponent of the leading digit decides the layout. -/
def Digits.compact (number : Digits) : String :=
  let power := Int.ofNat (toString number.digits).length + number.exponent - 1
  if -5 ≤ power && power ≤ 15 then number.positional true else number.scientific

def signed (number : Float) (write : Digits → String) : String :=
  (if number.toBits >>> 63 == 1 then "-" else "") ++
    write (Binary.ofBits number.toBits).shortest

/-- The plain text of a whole number has no point. -/
def plain (number : Float) : String :=
  if number.isNaN then "NaN"
  else if number.isInf then (if number < 0 then "-inf" else "inf")
  else signed number fun digits => digits.positional false

/-- The compact text of a finite number always shows that it is not an integer. -/
def compact (number : Float) : String := signed number Digits.compact

end PluginHost.Decimal
