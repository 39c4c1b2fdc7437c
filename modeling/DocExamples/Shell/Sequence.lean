/-
# Sequences of numbers

The numbers that `seq` counts, which are exact decimals: from the first to the last, by a step.
-/

import DocExamples.Shell.Tool

namespace DocExamples
namespace Shell

/-- A decimal number in units of its last place, and the number of its places. -/
structure ExactDecimal where
  units : Int
  places : Nat

namespace ExactDecimal

/-- The number that a text is. -/
def read? (cs : Bytes) : Option ExactDecimal := do
  let (negative, rest) := Numeral.sign (cs.dropWhile Numeral.isSpace)
  let signed (n : Nat) : Int := if negative then -Int.ofNat n else Int.ofNat n
  match rest with
  | '0' :: 'x' :: ds | '0' :: 'X' :: ds =>
    if ds.isEmpty || !ds.all Numeral.isHex then none
    else return ⟨signed (Numeral.inBase 16 ds), 0⟩
  | rest =>
    let whole := rest.takeWhile Char.isDigit
    let rest := rest.drop whole.length
    let (decimals, rest) := match rest with
      | '.' :: more => (more.takeWhile Char.isDigit, more.dropWhile Char.isDigit)
      | _ => ([], rest)
    if whole.isEmpty && decimals.isEmpty then none
    let ds := whole ++ decimals
    match rest with
    | [] => return ⟨signed (Decimal.ofDigits ds), decimals.length⟩
    | e :: more =>
      if e != 'e' && e != 'E' then none
      let (below, exponent) := Numeral.sign more
      let n ← Decimal.nat? exponent
      if 400 < n then none
      if below then return ⟨signed (Decimal.ofDigits ds), decimals.length + n⟩
      else
        let zeros := List.replicate (n - decimals.length) '0'
        return ⟨signed (Decimal.ofDigits (ds ++ zeros)), decimals.length - n⟩

/-- The number in units of a smaller place. -/
def inUnits (d : ExactDecimal) (places : Nat) : Int :=
  let factor := Decimal.ofDigits ('1' :: List.replicate (places - d.places) '0')
  d.units * Int.ofNat factor

/-- The text of a number of units. -/
def text (places : Nat) (units : Int) : Bytes :=
  let ds := State.decimal units.natAbs
  let ds := List.replicate (places + 1 - ds.length) '0' ++ ds
  let whole := ds.take (ds.length - places)
  (if units < 0 then ['-'] else []) ++
    (if places = 0 then whole else whole ++ '.' :: ds.drop whole.length)

end ExactDecimal

namespace Sequence

open Tool (Options Run str usage withOptions)

/-- What is wrong with a format for one number, if anything is. -/
def formatFault? (format : Bytes) : Option String :=
  let complaint (why : String) : Option String := some ("format '" ++ str format ++ "' " ++ why)
  let rec directives : (fuel : Nat) → Bytes → List Bytes
    | 0, _ => []
    | fuel + 1, cs =>
      match cs.dropWhile (· != '%') with
      | '%' :: '%' :: rest => directives fuel rest
      | '%' :: rest =>
        let layout := rest.takeWhile fun c => c.isDigit || "-+#0 '.".toList.contains c
        (layout ++ (rest.drop layout.length).take 1) ::
          directives fuel (rest.drop (layout.length + 1))
      | _ => []
  match directives (format.length + 1) format with
  | [] => complaint "has no % directive"
  | d :: more =>
    match d.getLast? with
    | some c =>
      if !"aAeEfFgG".toList.contains c then
        complaint ("has unknown %" ++ String.singleton c ++ " directive")
      else if more.isEmpty then none
      else complaint "has too many % directives"
    | none => complaint "ends in %"

/-- The numbers from one to another by a step, in units. -/
def values (first step last : Int) : List Int :=
  let count := if step = 0 || step > 0 && last < first || step < 0 && first < last then 0
    else ((last - first).tdiv step + 1).toNat
  (List.range count).map fun i => first + Int.ofNat i * step

def seq : Run := withOptions "seq" "w" "sf" 1 fun o s =>
  let args := o.operands
  match args.find? fun a => (ExactDecimal.read? a).isNone, args.filterMap ExactDecimal.read? with
  | _, [] =>
    match args with
    | [] => usage "seq" "missing operand" 1 s
    | a :: _ => usage "seq" ("invalid floating point argument: '" ++ str a ++ "'") 1 s
  | some a, _ =>
    if 3 < args.length then
      usage "seq" ("extra operand '" ++ str (args.getD 3 []) ++ "'") 1 s
    else usage "seq" ("invalid floating point argument: '" ++ str a ++ "'") 1 s
  | none, numbers =>
    let one : ExactDecimal := ⟨1, 0⟩
    let (first, step, last) := match numbers with
      | [last] => (one, one, last)
      | [first, last] => (first, one, last)
      | first :: step :: last :: _ => (first, step, last)
      | [] => (one, one, one)
    if 3 < args.length then
      usage "seq" ("extra operand '" ++ str (args.getD 3 []) ++ "'") 1 s
    else if step.units = 0 then
      usage "seq" ("invalid Zero increment value: '" ++ str (args.getD 1 []) ++ "'") 1 s
    else match (o.value? 'f').bind formatFault? with
    | some message => s.complain ("seq: " ++ message) 1
    | none =>
      let places := max first.places step.places
      let finest := max places last.places
      let scale := ExactDecimal.inUnits ⟨1, 0⟩ (finest - places)
      let found := (values (first.inUnits finest) (step.inUnits finest) (last.inUnits finest)).map
        fun n => ExactDecimal.text places (n.tdiv scale)
      let width := max (ExactDecimal.text places (first.inUnits places)).length
        (ExactDecimal.text places ((last.inUnits finest).tdiv scale)).length
      let texts := match o.value? 'f' with
        | some format => found.map fun t => (Printing.printf format [t]).out
        | none =>
          if o.has 'w' then found.map (Printing.padded false true width) else found
      let mark := (o.value? 's').getD ['\n']
      if texts.isEmpty then s else s.print (mark.intercalate texts ++ ['\n'])

/-- As many lines as are taken to be without end. -/
def endlessLines : Nat := 20000

/-- The same line again and again. -/
def yes : Run := fun args s =>
  let line := if args.isEmpty then ['y'] else [' '].intercalate args
  (s.finish 0).print (withEnds (List.replicate endlessLines line))

end Sequence
end Shell
end DocExamples
