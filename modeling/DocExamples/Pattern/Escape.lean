/-
# Flags and escapes

What a backslash and the characters after it stand for, under the flags in force. In verbose mode
blanks and comments may stand between any two characters of the written form, also inside braces.
-/

import DocExamples.Pattern.Form
import DocExamples.Text.Search
import DocExamples.Unicode.CaseFold

namespace DocExamples
namespace Pattern

/-- The flags in force at a place of the written form. -/
structure Flags where
  ignoreCase : Bool := false
  multiLine : Bool := false
  dotAll : Bool := false
  swapGreed : Bool := false
  unicode : Bool := true
  crlf : Bool := false
  verbose : Bool := false
deriving DecidableEq, Repr

namespace Flags

/-- The flag of a letter set or cleared. -/
def update? (f : Flags) (letter : Char) (value : Bool) : Option Flags :=
  match letter with
  | 'i' => some { f with ignoreCase := value }
  | 'm' => some { f with multiLine := value }
  | 's' => some { f with dotAll := value }
  | 'U' => some { f with swapGreed := value }
  | 'u' => some { f with unicode := value }
  | 'R' => some { f with crlf := value }
  | 'x' => some { f with verbose := value }
  | _ => none

def fold (f : Flags) (s : CharSet) : CharSet :=
  if f.ignoreCase then (if f.unicode then s.foldCase else s.foldAsciiCase) else s

/-- Whether a set matches nothing but text: without Unicode a negated set would match single
bytes of a character. -/
def isText (f : Flags) (s : CharSet) : Bool := f.unicode || !s.mem (Char.ofNat 0x10FFFF)

/-- Whether a character may stand for itself in a set. -/
def allows (f : Flags) (c : Char) : Bool := f.unicode || c.toNat < 128

end Flags

/-! ## Blanks and comments -/

/-- Skips blanks and comments in verbose mode. -/
def skipBlanks (f : Flags) : List Char → List Char
  | [] => []
  | c :: rest =>
    if !f.verbose then c :: rest
    else if Text.isBlank c then skipBlanks f rest
    else if c == '#' then skipComment f rest
    else c :: rest
where
  /-- Skips the rest of a comment and what may be skipped after it. -/
  skipComment (f : Flags) : List Char → List Char
    | [] => []
    | c :: rest => if c == '\n' then skipBlanks f rest else skipComment f rest

/-- The characters up to a closing brace, without what verbose mode skips, and what follows. -/
def braced? (f : Flags) (comment : Bool) : List Char → Option (List Char × List Char)
  | [] => none
  | c :: rest =>
    if comment then braced? f (c != '\n') rest
    else if f.verbose && Text.isBlank c then braced? f false rest
    else if f.verbose && c == '#' then braced? f true rest
    else if c == '\x7d' then some ([], rest)
    else (braced? f false rest).map fun (cs, rest) => (c :: cs, rest)

/-! ## Escapes -/

/-- An item that can stand in a sequence or in a class. -/
inductive Item where
  | literal (c : Char)
  | set (s : CharSet)
  | anchor (a : Anchor)
  /-- The places that `\b` and its relatives name, which depend on what a word character is. -/
  | boundary (a : Anchor)

/-- The characters that have a meaning of their own in patterns. -/
def isMeta (c : Char) : Bool :=
  ['\x5c', '.', '+', '*', '?', '(', ')', '|', '[', ']', '\x7b', '\x7d', '^', '$', '#', '&', '-',
    '~'].contains c

/-- The characters that stand for themselves after a backslash. -/
def isEscapable (c : Char) : Bool :=
  isMeta c || (c.toNat < 128 && !c.isAlphanum && c != '<' && c != '>')

/-- The value of a hexadecimal digit. -/
def hexDigit? (c : Char) : Option Nat :=
  if c.isDigit then some (c.toNat - 48)
  else if 'a' ≤ c ∧ c ≤ 'f' then some (c.toNat - 87)
  else if 'A' ≤ c ∧ c ≤ 'F' then some (c.toNat - 55)
  else none

/-- The character of a code point in hexadecimal digits. -/
def hexChar? (digits : List Char) : Option Char := do
  guard (!digits.isEmpty)
  let values ← digits.mapM hexDigit?
  let n := values.foldl (fun n d => min (n * 16 + d) 0x110000) 0
  if n.isValidChar then some (Char.ofNat n) else none

/-- `count` characters, with what verbose mode skips between them. -/
def takeApart? (f : Flags) : (count : Nat) → List Char → Option (List Char × List Char)
  | 0, rest => some ([], rest)
  | _ + 1, [] => none
  | count + 1, c :: rest =>
    (takeApart? f count (if count = 0 then rest else skipBlanks f rest)).map fun (cs, rest) =>
      (c :: cs, rest)

/-- The rest of an escape that names a code point with `count` digits or with digits in braces. -/
def codePoint? (f : Flags) (count : Nat) (rest : List Char) : Option (Char × List Char) := do
  let (digits, rest) ← match skipBlanks f rest with
    | '\x7b' :: more => braced? f false more
    | rest => takeApart? f count rest
  return (← hexChar? digits, rest)

/-- The set of a property in braces. Only the first sign between a name and a value separates
them; a sign of inequality is preferred to a colon, and that to a sign of equality. -/
def namedSet? (name : List Char) : Option CharSet :=
  let parted (sign : List Char) : Option (Option CharSet) :=
    (Text.indexOf? sign name).map fun i =>
      Unicode.propertyValue? (String.ofList (name.take i))
        (String.ofList (name.drop (i + sign.length)))
  ((parted ['!', '=']).or ((parted [':']).or (parted ['=']))).getD
    (Unicode.property? (String.ofList name))

/-- The rest of a property escape, after its `p`. -/
def property? (f : Flags) (negated : Bool) (rest : List Char) : Option (CharSet × List Char) := do
  guard f.unicode
  let (name, rest) ← match skipBlanks f rest with
    | '\x7b' :: more => braced? f false more
    | '\x5c' :: _ | [] => none
    | c :: rest => some ([c], rest)
  let set ← namedSet? name
  return ((f.fold set).complIf negated, rest)

/-- A class escape such as `\d`, negated if its letter is a capital. -/
def classEscape? (f : Flags) (letter : Char) : Option CharSet :=
  let pick (wide narrow : CharSet) : CharSet := if f.unicode then wide else narrow
  match letter with
  | 'd' => some (pick .digit .asciiDigit)
  | 's' => some (pick .blank .asciiBlank)
  | 'w' => some (pick .word .asciiWord)
  | 'D' => if f.unicode then some CharSet.digit.compl else none
  | 'S' => if f.unicode then some CharSet.blank.compl else none
  | 'W' => if f.unicode then some CharSet.word.compl else none
  | _ => none

/-- What follows `\b`: one of the names in braces that select a special boundary. Braces that
begin with neither a letter nor a hyphen are left for a repetition. -/
def boundary? (f : Flags) (rest : List Char) : Option (Anchor × List Char) :=
  match rest with
  | '\x7b' :: more =>
    match skipBlanks f more with
    | [] => none
    | c :: _ =>
      if !(c.isAlpha || c == '-') then some (.wordBoundary, rest)
      else do
        let (name, rest) ← braced? f false more
        match String.ofList name with
        | "start" => some (.wordStart, rest)
        | "end" => some (.wordEnd, rest)
        | "start-half" => some (.wordStartHalf, rest)
        | "end-half" => some (.wordEndHalf, rest)
        | _ => none
  | _ => some (.wordBoundary, rest)

/-- What follows a backslash. -/
def escape? (f : Flags) : List Char → Option (Item × List Char)
  | [] => none
  | c :: rest =>
    match c with
    | 'x' => do
      let (c, after) ← codePoint? f 2 rest
      -- Without Unicode two digits are a byte, and one above 127 is no text.
      guard (f.allows c || (skipBlanks f rest).head? == some '\x7b')
      return (.literal c, after)
    | 'u' => (codePoint? f 4 rest).map fun (c, rest) => (.literal c, rest)
    | 'U' => (codePoint? f 8 rest).map fun (c, rest) => (.literal c, rest)
    | 'p' => (property? f false rest).map fun (s, rest) => (.set s, rest)
    | 'P' => (property? f true rest).map fun (s, rest) => (.set s, rest)
    | 'd' | 's' | 'w' | 'D' | 'S' | 'W' => (classEscape? f c).map fun s => (.set s, rest)
    | 'a' => some (.literal '\x07', rest)
    | 'f' => some (.literal '\x0c', rest)
    | 't' => some (.literal '\t', rest)
    | 'n' => some (.literal '\n', rest)
    | 'r' => some (.literal '\r', rest)
    | 'v' => some (.literal '\x0b', rest)
    | 'A' => some (.anchor .textStart, rest)
    | 'z' => some (.anchor .textEnd, rest)
    | 'b' => (boundary? f rest).map fun (a, rest) => (.boundary a, rest)
    | 'B' => some (.boundary .insideWord, rest)
    | '<' => some (.boundary .wordStart, rest)
    | '>' => some (.boundary .wordEnd, rest)
    | c => if isEscapable c then some (.literal c, rest) else none

end Pattern
end DocExamples
