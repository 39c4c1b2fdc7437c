/-
# Layouts of decimals

A decimal `n · 10 ^ e` is written in one of two layouts. The plain layout has neither an exponent
nor a point without need: `75`, `33.33`, `0.0000001`. The layout of data files keeps a point in
every number and turns to an exponent below `10 ^ (-5)` and from `10 ^ 16` on: `75.0`, `1e-7`.
-/

import DocExamples.Decimal.Shortest

namespace DocExamples
namespace Decimal

def zeros (n : Nat) : String := String.ofList (List.replicate n '0')

/-- The digits of `n`, the point standing `e` places to the right of their end. -/
def positional (n : Nat) (e : Int) : String :=
  let ds := Nat.toDigits 10 n
  let point := Int.ofNat ds.length + e
  if 0 ≤ e then String.ofList ds ++ zeros e.toNat
  else if 0 < point then
    String.ofList (ds.take point.toNat) ++ "." ++ String.ofList (ds.drop point.toNat)
  else "0." ++ zeros (-point).toNat ++ String.ofList ds

/-- A sign in front of a number. -/
def signed (negative : Bool) (s : String) : String := if negative then "-" ++ s else s

/-- The plain layout of a float. -/
def plain (x : Float) : String :=
  match parts x with
  | .notANumber => "NaN"
  | .infinite negative => signed negative "inf"
  | .finite negative m q =>
    if m = 0 then signed negative "0"
    else
      let (n, e) := shortest m q
      signed negative (positional n e)

/-- The digits of `n` with a point after the first one and an exponent. -/
def scientific (n : Nat) (e : Int) : String :=
  let ds := Nat.toDigits 10 n
  let exponent := Int.ofNat ds.length + e - 1
  let fraction := match ds.drop 1 with
    | [] => ""
    | more => "." ++ String.ofList more
  String.ofList (ds.take 1) ++ fraction ++ "e" ++ toString exponent

/-- The layout of data files, for finite floats. -/
def data? (x : Float) : Option String :=
  match parts x with
  | .finite negative m q =>
    if m = 0 then some (signed negative "0.0")
    else
      let (n, e) := shortest m q
      let point := Int.ofNat (digitCount n) + e
      let text :=
        if 0 ≤ e ∧ point ≤ 16 then positional n e ++ ".0"
        else if -5 < point ∧ point ≤ 16 then positional n e
        else scientific n e
      some (signed negative text)
  | _ => none

end Decimal
end DocExamples
