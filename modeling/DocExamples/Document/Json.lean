/-
# The JSON notation

Reading is strict: no comments, no trailing commas, no control characters inside texts, and
nothing but blanks after the value. Whole numbers of 64 bits are kept as such; all others are
floats. A number beyond all floats and a text with a lone surrogate are well-formed, but
unreadable, and so is a table with such a name in it. Writing has a compact form and one with an
indent of two for every level.
-/

import DocExamples.Decimal.Layout
import DocExamples.Decimal.Read
import DocExamples.Document.Basic
import DocExamples.Text.Search

namespace DocExamples
namespace Document
namespace Json

/-! ## Reading -/

/-- Drops the blanks between tokens. -/
def skip (cs : List Char) : List Char :=
  cs.dropWhile fun c => c == ' ' || c == '\n' || c == '\t' || c == '\r'

/-- The value of four hexadecimal digits. -/
def hex4? : List Char → Option (Nat × List Char)
  | a :: b :: c :: d :: rest => do
    let a ← digit? a
    let b ← digit? b
    let c ← digit? c
    let d ← digit? d
    return (((a * 16 + b) * 16 + c) * 16 + d, rest)
  | _ => none
where
  digit? (c : Char) : Option Nat :=
    if c.isDigit then some (c.toNat - 48)
    else if 'a' ≤ c ∧ c ≤ 'f' then some (c.toNat - 87)
    else if 'A' ≤ c ∧ c ≤ 'F' then some (c.toNat - 55)
    else none

/-- The character after `\u`, two escapes making up one above the basic plane. Half of such a
pair is no character. -/
def unicodeEscape? (cs : List Char) : Option (Option Char × List Char) := do
  let (n, rest) ← hex4? cs
  if 0xD800 ≤ n ∧ n < 0xDC00 then
    match (Text.after? ['\x5c', 'u'] rest).bind hex4? with
    | some (m, more) =>
      if 0xDC00 ≤ m ∧ m < 0xE000 then
        return (some (Char.ofNat (0x10000 + (n - 0xD800) * 0x400 + (m - 0xDC00))), more)
      else return (none, rest)
    | none => return (none, rest)
  else if 0xDC00 ≤ n ∧ n < 0xE000 then return (none, rest)
  else return (some (Char.ofNat n), rest)

/-- One escaped character, after its backslash. -/
def escape? : List Char → Option (Option Char × List Char)
  | '\x22' :: rest => some ('\x22', rest)
  | '\x5c' :: rest => some ('\x5c', rest)
  | '/' :: rest => some ('/', rest)
  | 'b' :: rest => some ('\x08', rest)
  | 'f' :: rest => some ('\x0c', rest)
  | 'n' :: rest => some ('\n', rest)
  | 'r' :: rest => some ('\r', rest)
  | 't' :: rest => some ('\t', rest)
  | 'u' :: rest => unicodeEscape? rest
  | _ => none

/-- The characters of a text up to its closing quote, added to `read` in reverse, if all of them
are characters. -/
def textBody? : (fuel : Nat) → (read : Option (List Char)) → List Char →
    Option (Option String × List Char)
  | 0, _, _ => none
  | _ + 1, _, [] => none
  | fuel + 1, read, c :: rest =>
    if c == '\x22' then some (read.map fun cs => String.ofList cs.reverse, rest)
    else if c == '\x5c' then do
      let (c, rest) ← escape? rest
      textBody? fuel (read.bind fun cs => c.map (· :: cs)) rest
    else if c.toNat < 32 then none
    else textBody? fuel (read.map (c :: ·)) rest

/-- A number: no superfluous zero in front, digits on both sides of a point. -/
def number? (cs : List Char) : Option (Document × List Char) := do
  let (negative, cs) := match cs with
    | '-' :: rest => (true, rest)
    | _ => (false, cs)
  let whole := cs.takeWhile Char.isDigit
  let rest := cs.dropWhile Char.isDigit
  guard (!whole.isEmpty && (whole.length == 1 || whole.head? != some '0'))
  let (fraction, rest) ← match rest with
    | '.' :: more =>
      let ds := more.takeWhile Char.isDigit
      if ds.isEmpty then none else some (some ds, more.dropWhile Char.isDigit)
    | _ => some (none, rest)
  let (exponent, rest) ← match rest with
    | 'e' :: more | 'E' :: more =>
      let (sign, more) := match more with
        | '-' :: ds => (['-'], ds)
        | '+' :: ds => ([], ds)
        | _ => ([], more)
      let ds := more.takeWhile Char.isDigit
      (Decimal.exponent? (sign ++ ds)).map fun e => (some e, more.dropWhile Char.isDigit)
    | _ => some (none, rest)
  let n := Decimal.ofDigits whole
  let isWhole := fraction.isNone && exponent.isNone
  if isWhole && !negative && n < UInt64.size then return (.int (Int.ofNat n), rest)
  else if isWhole && negative && n ≤ UInt64.size / 2 && n != 0 then
    return (.int (-Int.ofNat n), rest)
  else
    let ds := fraction.getD []
    let x := Decimal.toFloat negative (Decimal.ofDigits (whole ++ ds))
      (exponent.getD 0 - Int.ofNat ds.length)
    return (if x.isFinite then .float x else .unreadable, rest)

/-- What the reader has open: a list with the items so far, or a table with the entries so far
and the name of the next one, all in reverse. -/
inductive Open where
  | list (items : List Document)
  | table (entries : List (Option String × Document)) (name : Option String)

/-- The table with the given entries in reverse. -/
def ofEntries (entries : List (Option String × Document)) : Document :=
  match entries.reverse.mapM fun (name, d) => name.map (·, d) with
  | some entries => .table entries
  | none => .unreadable

/-- The name of an entry and the colon after it. -/
def name? (fuel : Nat) (cs : List Char) : Option (Option String × List Char) := do
  let rest ← Text.after? ['\x22'] (skip cs)
  let (name, rest) ← textBody? fuel (some []) rest
  let rest ← Text.after? [':'] (skip rest)
  return (name, rest)

/-- What the reader does next: read a value, or put a finished value where it belongs. -/
inductive Task where
  | value
  | done (d : Document)

/-- Reads until the outermost value is finished. -/
def read? : (fuel : Nat) → List Open → Task → List Char → Option (Document × List Char)
  | 0, _, _, _ => none
  | fuel + 1, stack, .value, cs =>
    match skip cs with
    | '[' :: rest =>
      match skip rest with
      | ']' :: rest => read? fuel stack (.done (.list [])) rest
      | rest => read? fuel (.list [] :: stack) .value rest
    | '\x7b' :: rest =>
      match skip rest with
      | '\x7d' :: rest => read? fuel stack (.done (.table [])) rest
      | rest => do
        let (name, rest) ← name? fuel rest
        read? fuel (.table [] name :: stack) .value rest
    | '\x22' :: rest => do
      let (s, rest) ← textBody? fuel (some []) rest
      read? fuel stack (.done ((s.map .text).getD .unreadable)) rest
    | 't' :: 'r' :: 'u' :: 'e' :: rest => read? fuel stack (.done (.bool true)) rest
    | 'f' :: 'a' :: 'l' :: 's' :: 'e' :: rest => read? fuel stack (.done (.bool false)) rest
    | 'n' :: 'u' :: 'l' :: 'l' :: rest => read? fuel stack (.done .null) rest
    | rest => do
      let (d, rest) ← number? rest
      read? fuel stack (.done d) rest
  | _ + 1, [], .done d, cs => some (d, cs)
  | fuel + 1, .list items :: stack, .done d, cs =>
    match skip cs with
    | ',' :: rest => read? fuel (.list (d :: items) :: stack) .value rest
    | ']' :: rest => read? fuel stack (.done (.list (d :: items).reverse)) rest
    | _ => none
  | fuel + 1, .table entries name :: stack, .done d, cs =>
    match skip cs with
    | ',' :: rest => do
      let (next, rest) ← name? fuel rest
      read? fuel (.table ((name, d) :: entries) next :: stack) .value rest
    | '\x7d' :: rest => read? fuel stack (.done (ofEntries ((name, d) :: entries))) rest
    | _ => none

end Json

/-- The document that a JSON text holds. -/
def ofJson? (text : String) : Option Document := do
  let cs := text.toList
  let (d, rest) ← Json.read? (2 * cs.length + 2) [] .value cs
  guard (Json.skip rest).isEmpty
  return d

namespace Json

/-! ## Writing -/

def hexDigit (n : Nat) : Char := Char.ofNat (if n < 10 then 48 + n else 87 + n)

/-- A character inside a quoted text. -/
def escaped (c : Char) : List Char :=
  if c == '\x22' then ['\x5c', '\x22']
  else if c == '\x5c' then ['\x5c', '\x5c']
  else if c == '\x08' then ['\x5c', 'b']
  else if c == '\x0c' then ['\x5c', 'f']
  else if c == '\n' then ['\x5c', 'n']
  else if c == '\r' then ['\x5c', 'r']
  else if c == '\t' then ['\x5c', 't']
  else if c.toNat < 32 then
    ['\x5c', 'u', '0', '0', hexDigit (c.toNat / 16), hexDigit (c.toNat % 16)]
  else [c]

/-- A text in quotes. -/
def quoted (s : String) : String :=
  String.ofList ('\x22' :: (s.toList.flatMap escaped ++ ['\x22']))

def scalar : Document → String
  | .bool true => "true"
  | .bool false => "false"
  | .int n => toString n
  | .float x => (Decimal.data? x).getD "null"
  | .text s => quoted s
  | _ => "null"

mutual

/-- The compact form. -/
def compact : Document → String
  | .list items => "[" ++ ",".intercalate (compactItems items) ++ "]"
  | .table entries => "\x7b" ++ ",".intercalate (compactEntries entries) ++ "\x7d"
  | d => scalar d

def compactItems : List Document → List String
  | [] => []
  | d :: rest => compact d :: compactItems rest

def compactEntries : List (String × Document) → List String
  | [] => []
  | (name, d) :: rest => (quoted name ++ ":" ++ compact d) :: compactEntries rest

end

mutual

/-- The indented form, the lines inside `d` starting after `indent`. -/
def pretty (indent : String) : Document → String
  | .list [] => "[]"
  | .table [] => "\x7b\x7d"
  | .list (d :: rest) =>
    let inner := indent ++ "  "
    "[\n" ++ (",\n".intercalate (prettyItems inner (d :: rest))) ++ "\n" ++ indent ++ "]"
  | .table (e :: rest) =>
    let inner := indent ++ "  "
    "\x7b\n" ++ (",\n".intercalate (prettyEntries inner (e :: rest))) ++ "\n" ++ indent ++ "\x7d"
  | d => scalar d

def prettyItems (indent : String) : List Document → List String
  | [] => []
  | d :: rest => (indent ++ pretty indent d) :: prettyItems indent rest

def prettyEntries (indent : String) : List (String × Document) → List String
  | [] => []
  | (name, d) :: rest =>
    (indent ++ quoted name ++ ": " ++ pretty indent d) :: prettyEntries indent rest

end

end Json

/-- The document as JSON, indented. -/
def toJson (d : Document) : String := Json.pretty "" d

/-- The document as JSON on one line. -/
def toJsonLine (d : Document) : String := Json.compact d

end Document
end DocExamples
