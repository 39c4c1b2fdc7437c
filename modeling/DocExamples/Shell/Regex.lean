/-
# Regular expressions of text tools

The basic notation marks groups and bounds by backslashes and the extended one does not. A sign of
repetition that has nothing in front of it stands for itself, or is passed over, or is refused. Of
all matches at the first place where one begins the longest counts.
-/

import DocExamples.Decimal.Read
import DocExamples.Pattern.Basic
import DocExamples.Shell.Syntax
import DocExamples.Text.Search

namespace DocExamples
namespace Shell

/-- A notation of regular expressions, and whether it is blind to case. -/
structure RegexStyle where
  extended : Bool
  /-- Whether signs that make no sense where they stand are taken for themselves. -/
  lenient : Bool := true
  foldCase : Bool := false

/-- Why a text is no regular expression. -/
inductive RegexFault where
  | noPattern
  | unclosedBracket
  | unknownClass
  | emptyRange
  | noCharacter
  | trailingBackslash
  | unclosedGroup
  | strayClose
  | unclosedBounds
  | badBounds
  | tooBig
  | nothingToRepeat
  | badReference
deriving DecidableEq, Repr

def RegexFault.message : RegexFault → String
  | noPattern => "Invalid regular expression"
  | unclosedBracket => "Unmatched [, [^, [:, [., or [="
  | unknownClass => "Invalid character class name"
  | emptyRange => "Invalid range end"
  | noCharacter => "Invalid collation character"
  | trailingBackslash => "Trailing backslash"
  | unclosedGroup => "Unmatched ( or \\("
  | strayClose => "Unmatched ) or \\)"
  | unclosedBounds => "Unmatched \x5c\x7b"
  | badBounds => "Invalid content of \x5c\x7b\x5c\x7d"
  | tooBig => "Regular expression too big"
  | nothingToRepeat => "Invalid preceding regular expression"
  | badReference => "Invalid back reference"

namespace Regex

/-- A pattern for one byte of a set. -/
def oneOf (style : RegexStyle) (s : CharSet) : Pattern :=
  .chars (if style.foldCase then s.foldAsciiCase else s)

/-! ## Sets in brackets -/

/-- One end of a range, or a character of its own. -/
def element (cs : Bytes) : Except RegexFault (Char × Bytes) :=
  match cs with
  | '[' :: '.' :: c :: '.' :: ']' :: rest | '[' :: '=' :: c :: '=' :: ']' :: rest => .ok (c, rest)
  | '[' :: '.' :: _ | '[' :: '=' :: _ => .error .noCharacter
  | c :: rest => .ok (c, rest)
  | [] => .error .unclosedBracket

/-- The set in brackets, after the items read; a bracket that comes first belongs to it. -/
def bracket : (fuel : Nat) → (first : Bool) → (read : CharSet) → Bytes →
    Except RegexFault (CharSet × Bytes)
  | 0, _, _, _ => .error .unclosedBracket
  | fuel + 1, first, read, cs =>
    match cs with
    | [] => .error (if first then .noPattern else .unclosedBracket)
    | '[' :: ':' :: more => do
      let name := more.takeWhile Char.isAlpha
      let some rest := Text.after? [':', ']'] (more.drop name.length)
        | throw (if more.contains ':' then .unknownClass else .unclosedBracket)
      let some s := CharSet.asciiClass? (String.ofList name) | throw .unknownClass
      bracket fuel false (read.union s) rest
    | c :: rest => do
      if c == ']' && !first then return (read, rest)
      let (lo, rest) ← element (c :: rest)
      match rest with
      | '-' :: ']' :: _ => bracket fuel false (read.union (.single lo)) rest
      | '-' :: more => do
        let (hi, rest) ← element more
        if hi < lo then throw .emptyRange
        bracket fuel false (read.union (.range lo hi)) rest
      | rest => bracket fuel false (read.union (.single lo)) rest

/-! ## Repetitions -/

/-- The least and the greatest number of repetitions that a text between braces asks for. -/
def boundsOf (cs : Bytes) : Except RegexFault (Nat × Option Nat) :=
  let (lo, hi) := match Text.cut? ',' cs with
    | some (lo, hi) => (lo, hi)
    | none => (cs, cs)
  let least := Decimal.ofDigits lo
  let most := if hi.isEmpty then none else some (Decimal.ofDigits hi)
  if !(lo ++ hi).all Char.isDigit || cs.isEmpty || most.any (· < least) then .error .badBounds
  else if most.getD least > 32767 then .error .tooBig
  else .ok (least, most)

/-- What a postfix sign does, if there is one. -/
def postfixSign (style : RegexStyle) (cs : Bytes) :
    Except RegexFault (Option ((Nat × Option Nat) × Bytes)) :=
  let bounds (close rest : Bytes) : Except RegexFault (Option ((Nat × Option Nat) × Bytes)) :=
    let loose := style.extended && style.lenient
    match Text.indexOf? close rest with
    | none => if loose then .ok none else .error .unclosedBounds
    | some i =>
      let inside := rest.take i
      if loose && !(inside.all fun c => c.isDigit || c == ',') then .ok none
      else (boundsOf inside).map fun b => some (b, rest.drop (i + close.length))
  match style.extended, cs with
  | _, '*' :: rest => .ok (some ((0, none), rest))
  | true, '+' :: rest | false, '\x5c' :: '+' :: rest => .ok (some ((1, none), rest))
  | true, '?' :: rest | false, '\x5c' :: '?' :: rest => .ok (some ((0, some 1), rest))
  | true, '\x7b' :: rest => bounds ['\x7d'] rest
  | false, '\x5c' :: '\x7b' :: rest => bounds ['\x5c', '\x7d'] rest
  | _, _ => .ok none

/-- A pattern with all postfix signs that follow it. In the strict basic notation a star cannot
follow another sign. -/
def repeated (style : RegexStyle) : (fuel : Nat) → (again : Bool) → Pattern → Bytes →
    Except RegexFault (Pattern × Bytes)
  | 0, _, p, cs => .ok (p, cs)
  | fuel + 1, again, p, cs => do
    match ← postfixSign style cs with
    | some ((least, most), rest) =>
      let refused := match cs with
        | '*' :: _ | '\x5c' :: '\x7b' :: _ => true
        | _ => false
      if again && refused && !style.extended && !style.lenient then throw .nothingToRepeat
      repeated style fuel true (.times p least most true) rest
    | none => return (p, cs)

/-! ## Alternatives -/

/-- What follows a sign that has a backslash in the basic notation. -/
def sign? (style : RegexStyle) (c : Char) (cs : Bytes) : Option Bytes :=
  Text.after? (if style.extended then [c] else ['\x5c', c]) cs

/-- What an escape matches that stands for no single byte: a class, or a place. -/
def special? (c : Char) : Option Pattern :=
  match c with
  | 'w' => some (.chars .asciiWord)
  | 'W' => some (.chars CharSet.asciiWord.compl)
  | 's' => some (.chars .asciiBlank)
  | 'S' => some (.chars CharSet.asciiBlank.compl)
  | 'b' => some (.anchor .wordBoundary .asciiWord)
  | 'B' => some (.anchor .insideWord .asciiWord)
  | '<' => some (.anchor .wordStart .asciiWord)
  | '>' => some (.anchor .wordEnd .asciiWord)
  | '\x60' => some (.anchor .textStart .empty)
  | '\'' => some (.anchor .textEnd .empty)
  | _ => none

mutual

/-- Alternatives, the groups in them being numbered from `next` on. -/
def alternatives (style : RegexStyle) : (fuel next : Nat) → (nested : Bool) → Bytes →
    Except RegexFault ((Pattern × Nat) × Bytes)
  | 0, _, _, _ => .error .noPattern
  | fuel + 1, next, nested, cs => do
    let ((p, next), rest) ← items style fuel next nested true true .empty cs
    match sign? style '|' rest with
    | some rest =>
      let ((q, next), rest) ← alternatives style fuel next nested rest
      return ((.alt p q, next), rest)
    | none => return ((p, next), rest)

/-- The items of one alternative after those read. There may be nothing read at all, or nothing that
can be repeated. -/
def items (style : RegexStyle) : (fuel next : Nat) → (nested start fresh : Bool) →
    (read : Pattern) → Bytes → Except RegexFault ((Pattern × Nat) × Bytes)
  | 0, _, _, _, _, _, _ => .error .noPattern
  | fuel + 1, next, nested, start, fresh, read, cs => do
    let closes := (sign? style ')' cs).isSome
    if cs.isEmpty || (closes && nested) || (sign? style '|' cs).isSome then
      return ((read, next), cs)
    if closes && !(style.extended && style.lenient) then throw .strayClose
    let add (p : Pattern) (next : Nat) (rest : Bytes) :
        Except RegexFault ((Pattern × Nat) × Bytes) := do
      let (p, rest) ← repeated style (rest.length + 1) false p rest
      items style fuel next nested false false (.seq read p) rest
    let place (p : Pattern) (rest : Bytes) : Except RegexFault ((Pattern × Nat) × Bytes) :=
      items style fuel next nested false true (.seq read p) rest
    let literalBrace := style.lenient && !style.extended && (Text.after? ['\x5c', '\x7b'] cs).isSome
    let repeats ← if fresh && !literalBrace then postfixSign style cs else pure none
    match repeats, cs with
    | some (_, rest), c :: _ =>
      if style.extended then
        if style.lenient then items style fuel next nested start true read rest
        else throw .nothingToRepeat
      else if c == '*' then add (oneOf style (.single '*')) next (cs.drop 1)
      else if !style.lenient && (Text.after? ['\x5c', '\x7b'] cs).isSome then
        throw .nothingToRepeat
      else add (oneOf style (.single (cs.getD 1 c))) next (cs.drop 2)
    | _, _ =>
      match sign? style '(' cs with
      | some rest =>
        let ((p, after), rest) ← alternatives style fuel (next + 1) true rest
        match sign? style ')' rest with
        | some rest => add (.group next p) after rest
        | none => throw .unclosedGroup
      | none =>
        match cs with
        | '^' :: rest =>
          if start || style.extended then place (.anchor .textStart .empty) rest
          else add (oneOf style (.single '^')) next rest
        | '$' :: rest =>
          if style.extended || rest.isEmpty || (sign? style '|' rest).isSome ||
              (sign? style ')' rest).isSome then place (.anchor .textEnd .empty) rest
          else add (oneOf style (.single '$')) next rest
        | '.' :: rest => add (.chars .full) next rest
        | '[' :: '^' :: rest =>
          let (s, rest) ← bracket (rest.length + 1) true .empty rest
          add (.chars (if style.foldCase then s.foldAsciiCase.compl else s.compl)) next rest
        | '[' :: rest =>
          let (s, rest) ← bracket (rest.length + 1) true .empty rest
          add (oneOf style s) next rest
        | ['\x5c'] => throw .trailingBackslash
        | '\x5c' :: c :: rest =>
          if c.isDigit && c != '0' then throw .badReference
          match special? c with
          | some (.anchor a w) => place (.anchor a w) rest
          | some p => add p next rest
          | none => add (oneOf style (.single c)) next rest
        | c :: rest => add (oneOf style (.single c)) next rest
        | [] => return ((read, next), [])

end

/-- The pattern that a text writes down. -/
def read (style : RegexStyle) (cs : Bytes) : Except RegexFault Pattern := do
  let ((p, _), rest) ← alternatives style (4 * cs.length + 8) 1 false cs
  if rest.isEmpty then return p
  throw .strayClose

/-! ## Matches -/

/-- The longest of some matches. -/
def longest : List Reached → Option Reached
  | [] => none
  | r :: rest =>
    match longest rest with
    | some best => if r.place < best.place then some best else some r
    | none => some r

/-- The longest match at the first place from `start` on where one begins, and that place. -/
def find? (p : Pattern) (text : Array Char) (start : Nat) : Option (Nat × Reached) :=
  (List.range' start (text.size + 1 - start)).findSome? fun i =>
    (longest (p.ends text { place := i })).map (i, ·)

/-- Whether a pattern matches somewhere in a line. -/
def occursIn (p : Pattern) (line : Bytes) : Bool := (find? p line.toArray 0).isSome

end Regex
end Shell
end DocExamples
