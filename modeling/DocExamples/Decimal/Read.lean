/-
# Reading decimals

The float nearest to a decimal `n · 10 ^ e`; of two equally near ones it is the one with the even
mantissa. What is too large is infinite, what is too small is zero.
-/

import DocExamples.Decimal.Shortest

namespace DocExamples
namespace Decimal

/-- `a / b` rounded to the nearest natural number, halves to the even neighbour. -/
def roundDiv (a b : Nat) : Nat :=
  let low := a / b
  let rest := a % b
  if 2 * rest < b then low
  else if b < 2 * rest then low + 1
  else if low % 2 = 0 then low else low + 1

/-- The exponent `q` with `2 ^ q ≤ r < 2 ^ (q + 1)`, for positive `r`. -/
def binaryExponent (r : Ratio) : Int :=
  let guess := Int.ofNat r.1.log2 - Int.ofNat r.2.log2
  if Ratio.le (binaryRatio 1 guess) r then guess else guess - 1

/-- The bits of the float nearest to the fraction `r`. -/
def bitsOf (r : Ratio) : Nat :=
  if r.1 = 0 then 0
  else
    let q := max (binaryExponent r - 52) (-1074)
    let unit := binaryRatio 1 q
    let m := roundDiv (r.1 * unit.2) (r.2 * unit.1)
    let (m, q) := if m = 2 * leading then (leading, q + 1) else (m, q)
    if m < leading then m
    else if q > 971 then 2047 * leading
    else (q + 1075).toNat * leading + (m - leading)

/-- The float nearest to `n · 10 ^ e`, or its negation. -/
def toFloat (negative : Bool) (n : Nat) (e : Int) : Float :=
  let scale := Int.ofNat (digitCount n) + e
  let bits :=
    if n = 0 ∨ scale < -400 then 0
    else if scale > 400 then 2047 * leading
    else bitsOf (decimalRatio n e)
  Float.ofBits (UInt64.ofNat (if negative then bits + UInt64.size / 2 else bits))

/-- The digits of a list read as a number. -/
def ofDigits (ds : List Char) : Nat := ds.foldl (fun n d => n * 10 + (d.toNat - 48)) 0

/-- A whole decimal number: digits only, at least one. -/
def nat? (ds : List Char) : Option Nat :=
  if ds.isEmpty || !ds.all Char.isDigit then none else some (ofDigits ds)

/-- A whole number within `0 … limit - 1`, a plus sign allowed. -/
def bounded? (limit : Nat) (cs : List Char) : Option Nat := do
  let n ← nat? (match cs with
    | '+' :: rest => rest
    | _ => cs)
  if n < limit then some n else none

/-- A decimal exponent: an optional sign and digits. -/
def exponent? (cs : List Char) : Option Int :=
  match cs with
  | '-' :: ds => (nat? ds).map fun n => -Int.ofNat n
  | '+' :: ds => (nat? ds).map Int.ofNat
  | ds => (nat? ds).map Int.ofNat

/-- A float written as digits with an optional point and exponent, no sign. At least one digit
stands before or after the point. -/
def unsigned? (negative : Bool) (cs : List Char) : Option Float := do
  let whole := cs.takeWhile Char.isDigit
  let rest := cs.dropWhile Char.isDigit
  let (fraction, rest) := match rest with
    | '.' :: more => (more.takeWhile Char.isDigit, more.dropWhile Char.isDigit)
    | _ => ([], rest)
  if whole.isEmpty && fraction.isEmpty then none
  let e ← match rest with
    | [] => some 0
    | 'e' :: more | 'E' :: more => exponent? more
    | _ => none
  return toFloat negative (ofDigits (whole ++ fraction)) (e - Int.ofNat fraction.length)

/-- A float in free text: an optional sign, then a decimal or one of the words for infinity and
for no number, in any case. -/
def float? (text : String) : Option Float :=
  let (negative, rest) := match text.toList with
    | '-' :: more => (true, more)
    | '+' :: more => (false, more)
    | cs => (false, cs)
  match String.ofList (rest.map Char.toLower) with
  | "inf" | "infinity" => some (if negative then -(1.0 / 0.0) else 1.0 / 0.0)
  | "nan" => some (0.0 / 0.0)
  | _ => unsigned? negative rest

end Decimal
end DocExamples
