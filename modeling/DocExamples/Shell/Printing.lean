/-
# Printing in shells

What `echo` and `printf` write. Escapes stand for control characters and, as octal numbers, for
any byte; a format is used again as long as there are arguments left.
-/

import DocExamples.Shell.Numeral
import DocExamples.Shell.State

namespace DocExamples
namespace Shell
namespace Printing

open Numeral (isOctal)

/-- The byte of an octal number of at most `digits` digits. -/
def octal (digits : Nat) (cs : Bytes) : Char × Bytes :=
  let ds := (cs.take digits).takeWhile isOctal
  (Char.ofNat (Numeral.inBase 8 ds % 256), cs.drop ds.length)

/-- The byte that an escape stands for, after the backslash, which stands for itself before any
other byte. -/
def escape (cs : Bytes) : Char × Bytes :=
  match cs with
  | 'a' :: rest => ('\x07', rest)
  | 'b' :: rest => ('\x08', rest)
  | 'e' :: rest => ('\x1b', rest)
  | 'f' :: rest => ('\x0c', rest)
  | 'n' :: rest => ('\n', rest)
  | 'r' :: rest => ('\r', rest)
  | 't' :: rest => ('\t', rest)
  | 'v' :: rest => ('\x0b', rest)
  | '\x5c' :: rest => ('\x5c', rest)
  | c :: _ => if isOctal c then octal 3 cs else ('\x5c', cs)
  | [] => ('\x5c', [])

/-- A text with its escapes replaced, and whether it ends early. A zero in front does not count
among the digits of an octal number. -/
def unescaped : (fuel : Nat) → Bytes → Bytes × Bool
  | 0, _ => ([], false)
  | _ + 1, [] => ([], false)
  | fuel + 1, c :: rest =>
    if c == '\x5c' then
      match rest with
      | 'c' :: _ => ([], true)
      | '0' :: more =>
        let (b, rest) := octal 3 more
        let (cs, stop) := unescaped fuel rest
        (b :: cs, stop)
      | _ =>
        let (b, rest) := escape rest
        let (cs, stop) := unescaped fuel rest
        (b :: cs, stop)
    else
      let (cs, stop) := unescaped fuel rest
      (c :: cs, stop)

/-- What `echo` writes. -/
def echo (args : List Bytes) : Bytes :=
  let (args, newline) := match args with
    | ['-', 'n'] :: rest => (rest, false)
    | _ => (args, true)
  let text := [' '].intercalate args
  let (cs, stop) := unescaped (text.length + 1) text
  if stop || !newline then cs else cs ++ ['\n']

/-- Blanks or zeros that bring a text to a width. -/
def padded (left zero : Bool) (width : Nat) (cs : Bytes) : Bytes :=
  let missing := width - cs.length
  if left then cs ++ List.replicate missing ' '
  else if zero then
    match cs with
    | '-' :: rest => '-' :: (List.replicate missing '0' ++ rest)
    | _ => List.replicate missing '0' ++ cs
  else List.replicate missing ' ' ++ cs

/-! ## Formats -/

/-- How a conversion fills up its text. -/
structure Layout where
  left : Bool := false
  zero : Bool := false
  /-- Numbers from zero on have a sign too, or a blank in its place. -/
  sign : Bool := false
  space : Bool := false
  /-- Numbers in a base show it. -/
  alternate : Bool := false
  width : Nat := 0
  precision : Option Nat := none

/-- Why the output of a format ends before its end. -/
inductive Stop where
  /-- An argument says so. -/
  | asked
  | noLetter
  | unknown (directive : Bytes)
deriving DecidableEq

/-- What a format has written so far, what is wrong with the arguments, and those that are left. -/
structure Printer where
  args : List Bytes
  out : Bytes := []
  warnings : List String := []
  stop : Option Stop := none

namespace Printer

def put (p : Printer) (cs : Bytes) : Printer := { p with out := p.out ++ cs }

def warn (p : Printer) (arg : Bytes) (what : String) : Printer :=
  { p with warnings := p.warnings ++ [State.textOf arg ++ ": " ++ what] }

/-- Notes that a number does not take up a whole argument. -/
def check {α : Type} (p : Printer) (arg : Bytes) (found : Option (α × Bytes)) : Printer :=
  match found with
  | some (_, []) => p
  | some _ => p.warn arg "not completely converted"
  | none => if arg.isEmpty then p else p.warn arg "expected numeric value"

/-- A number that an argument is, a character after a quotation mark counting by its number. -/
def number {α : Type} (p : Printer) (ofChar : Char → α) (zero : α)
    (read? : Bytes → Option (α × Bytes)) : α × Printer :=
  match p.args with
  | [] => (zero, p)
  | arg :: args =>
    let p := { p with args }
    match arg with
    | '\'' :: cs | '\x22' :: cs => (ofChar (cs.headD '\x00'), p)
    | _ => (((read? arg).map (·.1)).getD zero, p.check arg (read? arg))

/-- The whole number that the next argument is. -/
def whole (p : Printer) : Int × Printer :=
  p.number (fun c => Int.ofNat c.toNat) 0 Numeral.whole?

/-- The same within the numbers that can be written, with or without a sign. -/
def bounded (p : Printer) (signed : Bool) : Int × Printer :=
  let (n, after) := p.whole
  let fits := if signed then Numeral.clamp n == n else n.natAbs < UInt64.size
  if fits then
    (if signed || 0 ≤ n then n else Int.ofNat UInt64.size + n, after)
  else
    (if signed then Numeral.clamp n else Int.ofNat UInt64.size - 1,
      after.warn (p.args.headD []) "Numerical result out of range")

/-- Reads the flags of a conversion. -/
def flags (l : Layout) : Bytes → Layout × Bytes
  | '-' :: rest => flags { l with left := true } rest
  | '0' :: rest => flags { l with zero := true } rest
  | '+' :: rest => flags { l with sign := true } rest
  | ' ' :: rest => flags { l with space := true } rest
  | '#' :: rest => flags { l with alternate := true } rest
  | cs => (l, cs)

/-- A number of places in a format, which a star takes from the arguments. -/
def places (p : Printer) (cs : Bytes) : Int × Printer × Bytes :=
  match cs with
  | '*' :: rest =>
    let (n, p) := p.whole
    (n, p, rest)
  | _ =>
    (Int.ofNat (Decimal.ofDigits (cs.takeWhile Char.isDigit)), p, cs.dropWhile Char.isDigit)

/-- Reads the layout of a conversion. A width below zero stands for the flag that fills up on the
right. -/
def layout (p : Printer) (cs : Bytes) : Layout × Printer × Bytes :=
  let (l, cs) := flags {} cs
  let (width, p, cs) := p.places cs
  let l := { l with left := l.left || width < 0, width := width.natAbs }
  match cs with
  | '.' :: rest =>
    let (n, p, rest) := p.places rest
    ({ l with precision := if n < 0 then none else some n.toNat }, p, rest)
  | _ => (l, p, cs)

/-- A number behind its sign or the mark of its base, brought to the width. -/
def filled (l : Layout) (zeros : Bool) (lead digits : Bytes) : Bytes :=
  let missing := l.width - (lead.length + digits.length)
  if l.left then lead ++ digits ++ List.replicate missing ' '
  else if zeros then lead ++ List.replicate missing '0' ++ digits
  else List.replicate missing ' ' ++ lead ++ digits

def signOf (l : Layout) (negative : Bool) : Bytes :=
  if negative then ['-'] else if l.sign then ['+'] else if l.space then [' '] else []

/-- Writes one argument as a conversion says. -/
def convert (p : Printer) (l : Layout) (directive : Bytes) (letter : Char) : Printer :=
  let text (cs : Bytes) : Bytes :=
    padded l.left false l.width (cs.take (l.precision.getD cs.length))
  let whole (lead digits : Bytes) : Bytes :=
    let digits := match l.precision with
      | some 0 => if digits == ['0'] then [] else digits
      | some n => List.replicate (n - digits.length) '0' ++ digits
      | none => digits
    filled l (l.zero && l.precision.isNone) lead digits
  let based (base : Nat) (mark : Bytes) : Printer :=
    let (n, p) := p.bounded false
    p.put (whole (if l.alternate && n != 0 then mark else []) (Nat.toDigits base n.toNat))
  match letter with
  | 's' => { p with args := p.args.tail }.put (text (p.args.headD []))
  | 'c' =>
    { p with args := p.args.tail }.put
      (padded l.left false l.width [(p.args.headD []).headD '\x00'])
  | 'b' =>
    let arg := p.args.headD []
    let (cs, stop) := unescaped (arg.length + 1) arg
    { p with args := p.args.tail, stop := if stop then some .asked else none }.put (text cs)
  | 'd' | 'i' =>
    let (n, p) := p.bounded true
    p.put (whole (signOf l (n < 0)) (Nat.toDigits 10 n.natAbs))
  | 'u' => based 10 []
  | 'o' => based 8 ['0']
  | 'x' => based 16 ['0', 'x']
  | 'X' =>
    let after := based 16 ['0', 'x']
    { after with out := p.out ++ (after.out.drop p.out.length).map Char.toUpper }
  | _ =>
    if ['e', 'f', 'g'].contains letter.toLower then
      let (x, p) := p.number (fun c => Float.ofNat c.toNat) 0 Numeral.fraction?
      let (negative, digits) := Numeral.fractionText letter.toLower (l.precision.getD 6) x
      let digits := if letter.isUpper then digits.map Char.toUpper else digits
      let finite := digits.any Char.isDigit
      p.put (filled l (l.zero && finite) (signOf l negative) digits)
    else { p with stop := some (.unknown directive) }

/-- Writes a format once. -/
def once : (fuel : Nat) → Bytes → Printer → Printer
  | 0, _, p => p
  | _ + 1, [], p => p
  | fuel + 1, c :: rest, p =>
    if c == '\x5c' then
      let (b, rest) := escape rest
      once fuel rest (p.put [b])
    else if c == '%' then
      match rest with
      | '%' :: rest => once fuel rest (p.put ['%'])
      | _ =>
        let (l, p, after) := p.layout rest
        match after with
        | [] => { p with stop := some .noLetter }
        | letter :: more =>
          let p := p.convert l ('%' :: rest.take (rest.length - more.length)) letter
          if p.stop.isSome then p else once fuel more p
    else once fuel rest (p.put [c])

/-- Writes a format, again and again as long as that uses up arguments. -/
def run : (fuel : Nat) → (format : Bytes) → Printer → Printer
  | 0, _, p => p
  | fuel + 1, format, p =>
    let after := once (format.length + 1) format p
    if after.stop.isSome || after.args.isEmpty || after.args.length == p.args.length then after
    else run fuel format after

end Printer

/-- What `printf` writes. -/
def printf (format : Bytes) (args : List Bytes) : Printer :=
  Printer.run (args.length + 1) format { args }

def Stop.message? : Stop → Option String
  | asked => none
  | noLetter => some "missing format character"
  | unknown directive => some (State.textOf directive ++ ": invalid directive")

end Printing
end Shell
end DocExamples
