/-
# Numerals

Numbers as scripts write them down. A reader takes a number from the front of a text and answers
what follows it. Fractions are written with a point, with an exponent, or in the shorter of the two
ways, and rounded from their exact value.
-/

import DocExamples.Decimal.Layout
import DocExamples.Decimal.Read
import DocExamples.Shell.Syntax

namespace DocExamples
namespace Shell
namespace Numeral

/-! ## Reading -/

def isSpace (c : Char) : Bool := [' ', '\t', '\n', '\x0b', '\x0c', '\r'].contains c

def isOctal (c : Char) : Bool := '0' ≤ c && c ≤ '7'

def isHex (c : Char) : Bool := c.isDigit || ('a' ≤ c.toLower && c.toLower ≤ 'f')

/-- The number that a digit stands for. -/
def digit (c : Char) : Nat := if c.isDigit then c.toNat - 48 else c.toLower.toNat - 87

/-- The number that digits stand for in a base. -/
def inBase (base : Nat) (ds : Bytes) : Nat := ds.foldl (fun n d => n * base + digit d) 0

/-- A sign in front of a number, whether it is a minus, and what follows it. -/
def sign (cs : Bytes) : Bool × Bytes :=
  match cs with
  | '-' :: rest => (true, rest)
  | '+' :: rest => (false, rest)
  | _ => (false, cs)

/-- A natural number, in octal notation after a zero and in hexadecimal notation after a zero and
an x. -/
def natural? (cs : Bytes) : Option (Nat × Bytes) :=
  let hex := match cs with
    | '0' :: 'x' :: ds | '0' :: 'X' :: ds => if ds.head?.any isHex then some ds else none
    | _ => none
  match hex with
  | some ds => some (inBase 16 (ds.takeWhile isHex), ds.dropWhile isHex)
  | none =>
    match cs with
    | '0' :: _ => some (inBase 8 (cs.takeWhile isOctal), cs.dropWhile isOctal)
    | c :: _ =>
      if c.isDigit then some (inBase 10 (cs.takeWhile Char.isDigit), cs.dropWhile Char.isDigit)
      else none
    | [] => none

/-- A whole number, blanks and a sign before it. -/
def whole? (cs : Bytes) : Option (Int × Bytes) :=
  let (negative, ds) := sign (cs.dropWhile isSpace)
  (natural? ds).map fun (n, rest) => (if negative then -Int.ofNat n else Int.ofNat n, rest)

/-- The nearest number of 64 bits with a sign. -/
def clamp (n : Int) : Int :=
  max (-Int.ofNat (UInt64.size / 2)) (min n (Int.ofNat (UInt64.size / 2) - 1))

/-- A fraction, blanks and a sign before it: digits with an optional point and exponent, or a word
for what is no number. -/
def fraction? (cs : Bytes) : Option (Float × Bytes) :=
  let (negative, cs) := sign (cs.dropWhile isSpace)
  let signed (x : Float) : Float := if negative then -x else x
  let word (s : String) : Bool := s.toList.isPrefixOf (cs.map Char.toLower)
  if word "infinity" then some (signed (1.0 / 0.0), cs.drop 8)
  else if word "inf" then some (signed (1.0 / 0.0), cs.drop 3)
  else if word "nan" then some (signed (0.0 / 0.0), cs.drop 3)
  else if word "0x" && (cs[2]?).any isHex then
    let ds := (cs.drop 2).takeWhile isHex
    some (Decimal.toFloat negative (inBase 16 ds) 0, cs.drop (2 + ds.length))
  else
    let whole := cs.takeWhile Char.isDigit
    let rest := cs.drop whole.length
    let places := match rest with
      | '.' :: more => more.takeWhile Char.isDigit
      | _ => []
    if whole.isEmpty && places.isEmpty then none
    else
      let rest := match rest with
        | '.' :: more => more.drop places.length
        | _ => rest
      let exponent : Option (Int × Bytes) := match rest with
        | 'e' :: more | 'E' :: more =>
          let (below, ds) := sign more
          let n := Int.ofNat (inBase 10 (ds.takeWhile Char.isDigit))
          if ds.head?.any Char.isDigit then
            some (if below then -n else n, ds.dropWhile Char.isDigit)
          else none
        | _ => none
      let (e, rest) := exponent.getD (0, rest)
      some (Decimal.toFloat negative (inBase 10 (whole ++ places)) (e - Int.ofNat places.length),
        rest)

/-! ## Writing -/

/-- The quotient of a fraction and a power of ten, rounded. -/
def scaled (r : Decimal.Ratio) (e : Int) : Nat :=
  let unit := Decimal.decimalRatio 1 e
  Decimal.roundDiv (r.1 * unit.2) (r.2 * unit.1)

/-- A fraction with so many places after the point. -/
def withPlaces (places : Nat) (r : Decimal.Ratio) : Bytes :=
  let ds := Nat.toDigits 10 (scaled r (-Int.ofNat places))
  let ds := List.replicate (places + 1 - ds.length) '0' ++ ds
  let whole := ds.take (ds.length - places)
  if places = 0 then whole else whole ++ '.' :: ds.drop whole.length

/-- The leading digits of a fraction, one more than `places`, and the exponent of the first. -/
def leadingDigits (places : Nat) (r : Decimal.Ratio) : Bytes × Int :=
  if r.1 = 0 then (List.replicate (places + 1) '0', 0)
  else
    let e := Decimal.decimalExponent r
    let ds := Nat.toDigits 10 (scaled r (e - Int.ofNat places))
    if ds.length > places + 1 then (ds.take (places + 1), e + 1) else (ds, e)

/-- An exponent of at least two digits. -/
def exponentText (e : Int) : Bytes :=
  let ds := Nat.toDigits 10 e.natAbs
  'e' :: (if e < 0 then '-' else '+') :: (if ds.length = 1 then '0' :: ds else ds)

/-- A fraction with one digit before the point and so many places after it. -/
def withExponent (places : Nat) (r : Decimal.Ratio) : Bytes :=
  let (ds, e) := leadingDigits places r
  ds.take 1 ++ (if places = 0 then [] else '.' :: ds.drop 1) ++ exponentText e

/-- A numeral without zeros at the end of its places. -/
def trimmed (cs : Bytes) : Bytes :=
  if cs.contains '.' then
    let cs := cs.reverse.dropWhile (· == '0')
    (if cs.head? == some '.' then cs.tail else cs).reverse
  else cs

/-- A fraction with so many digits, in the layout that suits its size. -/
def withDigits (count : Nat) (r : Decimal.Ratio) : Bytes :=
  let count := max count 1
  let (ds, e) := leadingDigits (count - 1) r
  if e < -4 || e ≥ Int.ofNat count then
    let mantissa := trimmed (ds.take 1 ++ (if count = 1 then [] else '.' :: ds.drop 1))
    mantissa ++ exponentText e
  else trimmed (withPlaces (Int.ofNat count - 1 - e).toNat r)

/-- The layouts of fractions, named by the letters that ask for them. -/
def fractionText (layout : Char) (precision : Nat) (x : Float) : Bool × Bytes :=
  match Decimal.parts x with
  | .notANumber => (false, "nan".toList)
  | .infinite negative => (negative, "inf".toList)
  | .finite negative m q =>
    let r := Decimal.binaryRatio m q
    (negative, match layout with
      | 'e' => withExponent precision r
      | 'g' => withDigits precision r
      | _ => withPlaces precision r)

end Numeral
end Shell
end DocExamples
