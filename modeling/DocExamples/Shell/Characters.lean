/-
# Replacing characters

How `tr` turns characters of one set into those of another one, removes them, or leaves one of a
run of them.
-/

import DocExamples.Shell.Tool
import DocExamples.Text.CharSet

namespace DocExamples
namespace Shell
namespace Characters

open Tool (Options Run str usage withOptions)

/-- The byte that an escape stands for, after the backslash; any other byte stands for itself. -/
def escaped (cs : Bytes) : Char × Bytes :=
  match cs with
  | c :: rest =>
    if c != 'e' && ("abfnrtv\\".toList.contains c || Numeral.isOctal c) then Printing.escape cs
    else (c, rest)
  | [] => ('\x5c', [])

/-- All bytes. -/
def allBytes : Bytes := (List.range 256).map Char.ofNat

/-- The bytes of a class. -/
def ofClass? (name : Bytes) : Option Bytes :=
  (CharSet.asciiClass? (str name)).map fun s => allBytes.filter s.mem

/-- A part of a set: bytes, or one that is repeated until the set is long enough. -/
inductive Part where
  | bytes (cs : Bytes)
  | repeated (c : Char) (count : Nat)

/-- A byte in brackets with a star and a number behind it, which may be octal. -/
def repetition? (cs : Bytes) : Option (Part × Bytes) :=
  match cs with
  | '[' :: c :: '*' :: rest =>
    let ds := rest.takeWhile Char.isDigit
    match rest.drop ds.length with
    | ']' :: rest =>
      let base := if ds.head? == some '0' then 8 else 10
      some (.repeated c (Numeral.inBase base ds), rest)
    | _ => none
  | _ => none

/-- A class or a byte in brackets. -/
def bracketed? (cs : Bytes) : Option (Except String Bytes × Bytes) :=
  match cs with
  | '[' :: ':' :: rest => do
    let (name, rest) ← Text.cut? ':' rest
    let rest ← Text.after? [']'] rest
    let found := match ofClass? name with
      | some cs => .ok cs
      | none => .error ("invalid character class '" ++ str name ++ "'")
    return (found, rest)
  | '[' :: '=' :: c :: '=' :: ']' :: rest => some (.ok [c], rest)
  | _ => none

/-- The parts of a set. -/
def parts : (fuel : Nat) → Bytes → Except String (List Part)
  | 0, _ | _, [] => .ok []
  | fuel + 1, c :: rest => do
    match bracketed? (c :: rest), repetition? (c :: rest) with
    | some (found, rest), _ => return .bytes (← found) :: (← parts fuel rest)
    | none, some (p, rest) => return p :: (← parts fuel rest)
    | none, none =>
      let (lo, rest) := if c == '\x5c' then escaped rest else (c, rest)
      match rest with
      | '-' :: d :: more =>
        let (hi, more) := if d == '\x5c' then escaped more else (d, more)
        if hi < lo then
          throw ("range-endpoints of '" ++ str [lo] ++ "-" ++ str [hi] ++
            "' are in reverse collating sequence order")
        return .bytes (allBytes.filter fun c => lo ≤ c && c ≤ hi) :: (← parts fuel more)
      | _ => return .bytes [lo] :: (← parts fuel rest)

def Part.size : Part → Nat
  | bytes cs => cs.length
  | repeated _ count => count

/-- The bytes of parts, as many as asked for if one of them can be repeated without end. -/
def filledTo (length : Nat) (ps : List Part) : Bytes :=
  let fixed := ps.foldl (fun n p => n + p.size) 0
  ps.flatMap fun
    | .bytes cs => cs
    | .repeated c 0 => List.replicate (length - fixed) c
    | .repeated c n => List.replicate n c

/-- A text in which runs of a byte of a set are one byte. -/
def squeezed (member : Char → Bool) (cs : Bytes) : Bytes :=
  (cs.foldl (fun out c => if out.head? == some c && member c then out else c :: out) []).reverse

/-- What a byte of one set becomes: the byte at the same place of the other set, or its last one. -/
def image (first second : Bytes) (c : Char) : Char :=
  match first.reverse.idxOf? c with
  | some i => (second[first.length - 1 - i]?).getD (second.getLastD c)
  | none => c

def translate (o : Options) (sets : List (List Part)) (text : Bytes) : Except String Bytes :=
  let complement := o.has 'c' || o.has 'C'
  let listed := filledTo 0 (sets.headD [])
  let first := if complement then allBytes.filter (!listed.contains ·) else listed
  let rest := sets.tail
  let second := filledTo first.length (rest.headD [])
  match rest with
  | [] =>
    if o.has 'd' then .ok (text.filter (!first.contains ·))
    else .ok (squeezed first.contains text)
  | _ :: _ =>
    if o.has 'd' then .ok (squeezed second.contains (text.filter (!first.contains ·)))
    else if second.isEmpty && !first.isEmpty && !o.has 't' then
      .error "when not truncating set1, string2 must be non-empty"
    else
      let first := if o.has 't' then first.take second.length else first
      let mapped := text.map (image first second)
      .ok (if o.has 's' then squeezed second.contains mapped else mapped)

def tr : Run := withOptions "tr" "dscCt" "" 1 fun o s =>
  let args := o.operands
  let alone := o.has 'd' && !o.has 's'
  let needed := if alone || (o.has 's' && !o.has 'd') then 1 else 2
  let most := if alone then 1 else 2
  match args.getLast? with
  | none => usage "tr" "missing operand" 1 s
  | some last =>
    if args.length < needed then
      let why := if o.has 'd' then
          "Two strings must be given when both deleting and squeezing repeats."
        else "Two strings must be given when translating."
      usage "tr" ("missing operand after '" ++ str last ++ "'\n" ++ why) 1 s
    else if most < args.length then
      let extra := "extra operand '" ++ str (args.getD most []) ++ "'"
      let why := if alone then
          "\nOnly one string may be given when deleting without squeezing repeats."
        else ""
      usage "tr" (extra ++ why) 1 s
    else
      let out : Except String Bytes := do
        let sets ← args.mapM fun (cs : Bytes) => parts (cs.length + 1) cs
        translate o sets s.input
      match out with
      | .ok text => { s with input := [] }.print text
      | .error message => s.complain ("tr: " ++ message) 1

end Characters
end Shell
end DocExamples
