/-
# Shortest decimals

A binary number `m · 2 ^ q` of 53 digits stands for all real numbers that round to it. Its
shortest decimal is the one with the fewest digits among those numbers, and of several the one
nearest to `m · 2 ^ q`. The search tries one digit, then two, and so on: if the grid of decimals
with so many digits meets the interval at all, it does so in one of the two neighbours of the
number on that grid. Seventeen digits always suffice.
-/

namespace DocExamples
namespace Decimal

/-- The parts of a floating-point number. -/
inductive Parts where
  | notANumber
  | infinite (negative : Bool)
  /-- The number `mantissa · 2 ^ exponent` or its negation. -/
  | finite (negative : Bool) (mantissa : Nat) (exponent : Int)
deriving DecidableEq, Repr

/-- The number `2 ^ 52`, the place of the leading digit of a full mantissa. -/
def leading : Nat := 0x10000000000000

/-- The parts of a float, read from its bits. -/
def parts (x : Float) : Parts :=
  let bits := x.toBits.toNat
  let negative := 2 * bits / UInt64.size = 1
  let biased := bits / leading % 2048
  let fraction := bits % leading
  if biased = 2047 then if fraction = 0 then .infinite negative else .notANumber
  else if biased = 0 then .finite negative fraction (-1074)
  else .finite negative (fraction + leading) (Int.ofNat biased - 1075)

/-- A positive rational number, its numerator and its denominator. -/
abbrev Ratio := Nat × Nat

/-- `m · 2 ^ q` as a fraction. -/
def binaryRatio (m : Nat) (q : Int) : Ratio :=
  if 0 ≤ q then (m <<< q.toNat, 1) else (m, 1 <<< (-q).toNat)

/-- `n · 10 ^ e` as a fraction. -/
def decimalRatio (n : Nat) (e : Int) : Ratio :=
  if 0 ≤ e then (n * Nat.pow 10 e.toNat, 1) else (n, Nat.pow 10 (-e).toNat)

def Ratio.lt (a b : Ratio) : Bool := a.1 * b.2 < b.1 * a.2

def Ratio.le (a b : Ratio) : Bool := a.1 * b.2 ≤ b.1 * a.2

/-- The distance between two fractions. -/
def Ratio.dist (a b : Ratio) : Ratio :=
  let x := a.1 * b.2
  let y := b.1 * a.2
  (if x ≤ y then y - x else x - y, a.2 * b.2)

/-- Whether a real number between the ends rounds to `m · 2 ^ q`: the ends lie halfway to the
neighbours and belong to the even mantissa. -/
def roundsTo (m : Nat) (q : Int) (r : Ratio) : Bool :=
  let above := binaryRatio (4 * m + 2) (q - 2)
  let below := binaryRatio (4 * m - (if m = leading ∧ q > -1074 then 1 else 2)) (q - 2)
  if m % 2 = 0 then Ratio.le below r && Ratio.le r above
  else Ratio.lt below r && Ratio.lt r above

/-- The number of decimal digits of `n`. -/
def digitCount (n : Nat) : Nat := (Nat.toDigits 10 n).length

/-- The exponent `e` with `10 ^ e ≤ r < 10 ^ (e + 1)`, for positive `r`. -/
def decimalExponent (r : Ratio) : Int :=
  let guess := Int.ofNat (digitCount r.1) - Int.ofNat (digitCount r.2)
  if Ratio.le (decimalRatio 1 guess) r then guess else guess - 1

/-- A decimal of `digits` digits that rounds to `m · 2 ^ q`, the nearest one. -/
def candidate? (m : Nat) (q : Int) (digits : Nat) : Option (Nat × Int) :=
  let r := binaryRatio m q
  let e := decimalExponent r - Int.ofNat digits + 1
  let unit := decimalRatio 1 e
  let low := r.1 * unit.2 / (r.2 * unit.1)
  let fits (n : Nat) : Bool := roundsTo m q (decimalRatio n e)
  let distance (n : Nat) : Ratio := Ratio.dist (decimalRatio n e) r
  match fits low, fits (low + 1) with
  | false, false => none
  | true, false => some (low, e)
  | false, true => some (low + 1, e)
  | true, true =>
    if Ratio.lt (distance low) (distance (low + 1)) then some (low, e)
    else if Ratio.lt (distance (low + 1)) (distance low) then some (low + 1, e)
    else some (if low % 2 = 0 then low else low + 1, e)

/-- The same decimal without zeros at the end of its digits. -/
def stripZeros : (fuel : Nat) → Nat → Int → Nat × Int
  | 0, n, e => (n, e)
  | fuel + 1, n, e => if n % 10 = 0 then stripZeros fuel (n / 10) (e + 1) else (n, e)

/-- The shortest decimal `n · 10 ^ e` that rounds to `m · 2 ^ q`, for positive `m`. -/
def shortest (m : Nat) (q : Int) : Nat × Int :=
  let (n, e) := ((List.range 17).findSome? fun k => candidate? m q (k + 1)).getD (m, 0)
  stripZeros 20 n e

end Decimal
end DocExamples
