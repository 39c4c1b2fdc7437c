/-
# The TOML notation

A document is a table written as lines: entries, headers that open a table, and headers that open
the next table of a list. Names with dots stand for tables inside tables. A table is defined once:
by its header, by names with dots, or by braces on one line; a header above it only implies it and
leaves it to be defined. Whole numbers have 64 bits with a sign, and a date or a time is kept as a
table that holds its text under the empty name.
-/

import DocExamples.Decimal.Read
import DocExamples.Document.Basic
import DocExamples.Text.Search

namespace DocExamples
namespace Document
namespace Toml

/-! ## Tables under construction -/

/-- How a table came to be. -/
inductive Origin where
  /-- It has a header of its own, or is the table of the whole document. -/
  | header
  /-- It lies on the way to the table of a header. -/
  | implied
  /-- It lies on the way to an entry. -/
  | dotted
deriving DecidableEq, Repr

mutual

/-- A table that may still grow. -/
inductive Section where
  | mk (origin : Origin) (entries : List (String × Item))

/-- What a name in a table stands for. -/
inductive Item where
  | value (d : Document)
  | section (s : Section)
  /-- A list of tables, each with a header, the last one first. -/
  | sections (last : Section) (before : List Section)

end

namespace Section

def origin : Section → Origin
  | mk o _ => o

def entries : Section → List (String × Item)
  | mk _ es => es

def get? (s : Section) (name : String) : Option Item := (s.entries.find? (·.1 == name)).map (·.2)

/-- Puts an item in the place of the one of its name, or else at the end. -/
def put (s : Section) (name : String) (i : Item) : Section :=
  .mk s.origin
    (if (s.get? name).isSome then s.entries.map fun e => if e.1 == name then (name, i) else e
    else s.entries ++ [(name, i)])

/-- Changes the table that a path leads to. Tables that are missing on the way are made; a list
of tables leads on to its last one. Names with dots do not enter a table that has a header. -/
def update (make : Origin) (f : Section → Option Section) :
    (path : List String) → Section → Option Section
  | [], s => f s
  | name :: rest, s =>
    match s.get? name with
    | none => (update make f rest (.mk make [])).map fun t => s.put name (.section t)
    | some (.value _) => none
    | some (.sections last before) =>
      (update make f rest last).map fun t => s.put name (.sections t before)
    | some (.section t) =>
      if make = .dotted ∧ t.origin = .header then none
      else (update make f rest t).map fun t => s.put name (.section t)

/-- Adds an entry, the last name of the path being new. -/
def addEntry (path : List String) (name : String) (d : Document) : Section → Option Section :=
  update .dotted (fun s =>
    if (s.origin != .dotted && !path.isEmpty) || (s.get? name).isSome then none
    else some (s.put name (.value d))) path

/-- Opens the table of a header. -/
def openTable (path : List String) (name : String) : Section → Option Section :=
  update .implied (fun s =>
    match s.get? name with
    | none => some (s.put name (.section (.mk .header [])))
    | some (.section t) =>
      if t.origin = .implied then some (s.put name (.section (.mk .header t.entries))) else none
    | some _ => none) path

/-- Opens the next table of a list. -/
def openListed (path : List String) (name : String) : Section → Option Section :=
  update .implied (fun s =>
    match s.get? name with
    | none => some (s.put name (.sections (.mk .header []) []))
    | some (.sections last before) =>
      some (s.put name (.sections (.mk .header []) (last :: before)))
    | some _ => none) path

end Section

mutual

def Section.toDocument : Section → Document
  | .mk _ es => .table (entryDocuments es)

def entryDocuments : List (String × Item) → List (String × Document)
  | [] => []
  | (name, i) :: rest => (name, Item.toDocument i) :: entryDocuments rest

def Item.toDocument : Item → Document
  | .value d => d
  | .section s => s.toDocument
  | .sections last before => .list (listed before [last.toDocument])

/-- The documents of tables in reverse, in front of those given. -/
def listed : List Section → List Document → List Document
  | [], ds => ds
  | s :: rest, ds => listed rest (s.toDocument :: ds)

end

/-! ## Blanks, comments and line ends -/

/-- Drops blanks within a line. -/
def skip (cs : List Char) : List Char := cs.dropWhile fun c => c == ' ' || c == '\t'

/-- Whether a character may stand in a comment: anything but control characters other than the
tab. -/
def isVisible (c : Char) : Bool := c == '\t' || (32 ≤ c.toNat && c.toNat != 127)

/-- Drops a comment, if there is one. -/
def skipComment (cs : List Char) : List Char :=
  match cs with
  | '#' :: rest => rest.dropWhile isVisible
  | _ => cs

/-- What follows a line end. -/
def newline? : List Char → Option (List Char)
  | '\n' :: rest => some rest
  | '\r' :: '\n' :: rest => some rest
  | _ => none

/-- What follows the end of a line that holds nothing more than blanks and a comment. -/
def endLine? (cs : List Char) : Option (List Char) :=
  match skipComment (skip cs) with
  | [] => some []
  | rest => newline? rest

/-- Drops blanks, comments and line ends. -/
def skipLines : (fuel : Nat) → List Char → List Char
  | 0, cs => cs
  | fuel + 1, cs =>
    match newline? (skipComment (skip cs)) with
    | some rest => skipLines fuel rest
    | none => skip cs

/-! ## Texts -/

/-- The value of hexadecimal digits. -/
def hex? (ds : List Char) : Option Nat :=
  ds.foldlM (fun n c =>
    if c.isDigit then some (n * 16 + (c.toNat - 48))
    else if 'a' ≤ c ∧ c ≤ 'f' then some (n * 16 + (c.toNat - 87))
    else if 'A' ≤ c ∧ c ≤ 'F' then some (n * 16 + (c.toNat - 55))
    else none) 0

/-- The character with a code point of so many hexadecimal digits. -/
def codePoint? (count : Nat) (cs : List Char) : Option (Char × List Char) := do
  let ds := cs.take count
  guard (ds.length == count)
  let n ← hex? ds
  guard (n < 0xD800 || (0xDFFF < n && n < 0x110000))
  return (Char.ofNat n, cs.drop count)

/-- One escaped character, after its backslash. -/
def escape? : List Char → Option (Char × List Char)
  | 'b' :: rest => some ('\x08', rest)
  | 'f' :: rest => some ('\x0c', rest)
  | 'n' :: rest => some ('\n', rest)
  | 'r' :: rest => some ('\r', rest)
  | 't' :: rest => some ('\t', rest)
  | '\x22' :: rest => some ('\x22', rest)
  | '\x5c' :: rest => some ('\x5c', rest)
  | 'u' :: rest => codePoint? 4 rest
  | 'U' :: rest => codePoint? 8 rest
  | _ => none

/-- The quotation marks and the number of them that enclose a text. -/
structure Quote where
  mark : Char
  multiline : Bool

namespace Quote

/-- In double quotation marks the backslash begins an escape. -/
def escapes (q : Quote) : Bool := q.mark == '\x22'

/-- What follows a backslash that hides the line end and the blanks after it. -/
def hiddenEnd? (cs : List Char) : Option (List Char) :=
  (newline? (skip cs)).map fun rest => blanks (rest.length + 1) rest
where
  blanks : Nat → List Char → List Char
    | 0, cs => cs
    | fuel + 1, cs =>
      match newline? (skip cs) with
      | some rest => blanks fuel rest
      | none => skip cs

/-- The characters up to the closing marks, added to `read` in reverse. A text of several lines
may end in up to two marks of its own. -/
def body? (q : Quote) : (fuel : Nat) → (read : List Char) → List Char → Option (String × List Char)
  | 0, _, _ => none
  | _ + 1, _, [] => none
  | fuel + 1, read, c :: rest =>
    if c == q.mark then
      if !q.multiline then some (String.ofList read.reverse, rest)
      else
        let count := min 5 ((c :: rest).takeWhile (· == q.mark)).length
        let rest := (c :: rest).drop count
        if count < 3 then body? q fuel (List.replicate count c ++ read) rest
        else some (String.ofList (List.replicate (count - 3) c ++ read).reverse, rest)
    else if c == '\x5c' && q.escapes then
      match if q.multiline then hiddenEnd? rest else none with
      | some rest => body? q fuel read rest
      | none => do
        let (c, rest) ← escape? rest
        body? q fuel (c :: read) rest
    else if isVisible c then body? q fuel (c :: read) rest
    else if q.multiline then do
      let rest ← newline? (c :: rest)
      body? q fuel ('\n' :: read) rest
    else none

end Quote

/-- A text in quotation marks on one line. -/
def lineText? (cs : List Char) : Option (String × List Char) :=
  match cs with
  | '\x22' :: rest => Quote.body? ⟨'\x22', false⟩ (rest.length + 1) [] rest
  | '\'' :: rest => Quote.body? ⟨'\'', false⟩ (rest.length + 1) [] rest
  | _ => none

/-- A text in quotation marks, three of which enclose one of several lines, a line end right
after them being dropped. -/
def text? (cs : List Char) : Option (String × List Char) :=
  let multiline (mark : Char) (rest : List Char) : Option (String × List Char) :=
    Quote.body? ⟨mark, true⟩ (rest.length + 1) [] ((newline? rest).getD rest)
  match cs with
  | '\x22' :: '\x22' :: '\x22' :: rest => multiline '\x22' rest
  | '\'' :: '\'' :: '\'' :: rest => multiline '\'' rest
  | _ => lineText? cs

/-! ## Names -/

def isNameChar (c : Char) : Bool := c.isAlphanum || c == '_' || c == '-'

/-- One name, bare or in quotation marks. -/
def simpleName? (cs : List Char) : Option (String × List Char) :=
  match cs with
  | '\x22' :: _ | '\'' :: _ => lineText? cs
  | _ =>
    let name := cs.takeWhile isNameChar
    if name.isEmpty then none else some (String.ofList name, cs.dropWhile isNameChar)

/-- Names with dots between them, blanks around each. -/
def names? : (fuel : Nat) → List Char → Option (List String × List Char)
  | 0, _ => none
  | fuel + 1, cs => do
    let (name, rest) ← simpleName? (skip cs)
    match skip rest with
    | '.' :: rest =>
      let (names, rest) ← names? fuel rest
      return (name :: names, rest)
    | rest => return ([name], rest)

/-- The most levels of nesting, of names with dots and of values alike. -/
def maxDepth : Nat := 79

/-- A path and the name at its end. -/
def path? (cs : List Char) : Option ((List String × String) × List Char) := do
  let (names, rest) ← names? (cs.length + 1) cs
  guard (names.length ≤ maxDepth)
  let last ← names.getLast?
  return ((names.dropLast, last), rest)

/-! ## Numbers -/

/-- Digits, single underscores between them. The answer leaves the underscores out. -/
def digits? (isDigit : Char → Bool) : List Char → Option (List Char × List Char)
  | [] => none
  | c :: rest => if isDigit c then some (more c rest) else none
where
  more (c : Char) : List Char → List Char × List Char
    | [] => ([c], [])
    | '_' :: d :: rest =>
      if isDigit d then let (ds, rest) := more d rest; (c :: ds, rest) else ([c], '_' :: d :: rest)
    | d :: rest =>
      if isDigit d then let (ds, rest) := more d rest; (c :: ds, rest) else ([c], d :: rest)

/-- Decimal digits without a superfluous zero in front. -/
def whole? : List Char → Option (List Char × List Char)
  | '0' :: rest => some (['0'], rest)
  | cs => digits? Char.isDigit cs

/-- A sign, which may be left out. -/
def sign : List Char → Bool × List Char
  | '-' :: rest => (true, rest)
  | '+' :: rest => (false, rest)
  | cs => (false, cs)

/-- The fraction after a point, if there is a point. -/
def fraction? : List Char → Option (Option (List Char) × List Char)
  | '.' :: rest => (digits? Char.isDigit rest).map fun (ds, rest) => (some ds, rest)
  | cs => some (none, cs)

/-- The exponent after its letter, if there is a letter. -/
def exponent? : List Char → Option (Option Int × List Char)
  | 'e' :: rest | 'E' :: rest => do
    let (negative, rest) := sign rest
    let (ds, rest) ← digits? Char.isDigit rest
    let n := Int.ofNat (Decimal.ofDigits ds)
    return (some (if negative then -n else n), rest)
  | cs => some (none, cs)

/-- A decimal number. What is too large for a float is refused, unless it is negative. -/
def decimal? (cs : List Char) : Option (Document × List Char) := do
  let (negative, rest) := sign cs
  match rest with
  | 'i' :: 'n' :: 'f' :: rest =>
    return (.float (if negative then -(1.0 / 0.0) else 1.0 / 0.0), rest)
  | 'n' :: 'a' :: 'n' :: rest => return (.float (0.0 / 0.0), rest)
  | _ =>
    let (ds, rest) ← whole? rest
    let (fraction, rest) ← fraction? rest
    let (exponent, rest) ← exponent? rest
    if fraction.isNone && exponent.isNone then
      let n := Decimal.ofDigits ds
      guard (n < UInt64.size / 2 || (negative && n == UInt64.size / 2))
      return (.int (if negative then -Int.ofNat n else Int.ofNat n), rest)
    else
      let decimals := fraction.getD []
      let x := Decimal.toFloat negative (Decimal.ofDigits (ds ++ decimals))
        (exponent.getD 0 - Int.ofNat decimals.length)
      guard (negative || x.isFinite)
      return (.float x, rest)

/-- A whole number in another base, after the letter that says which. -/
def based? (base : Nat) (cs : List Char) : Option (Document × List Char) := do
  let (ds, rest) ← digits? (fun c => (hex? [c]).any (· < base)) cs
  let n := ds.foldl (fun n c => n * base + (hex? [c]).getD 0) 0
  guard (n < UInt64.size / 2)
  return (.int (Int.ofNat n), rest)

/-! ## Dates and times -/

/-- A number of so many digits within bounds. -/
def field? (count lo hi : Nat) (cs : List Char) : Option (Nat × List Char) := do
  let n ← Decimal.nat? (cs.take count)
  guard ((cs.take count).length == count && lo ≤ n && n ≤ hi)
  return (n, cs.drop count)

def daysIn (year month : Nat) : Nat :=
  if month = 2 then if year % 4 = 0 ∧ (year % 100 ≠ 0 ∨ year % 400 = 0) then 29 else 28
  else if [4, 6, 9, 11].contains month then 30 else 31

/-- What follows a date. -/
def date? (cs : List Char) : Option (List Char) := do
  let (year, rest) ← field? 4 0 9999 cs
  let (month, rest) ← field? 2 1 12 (← Text.after? ['-'] rest)
  let (_, rest) ← field? 2 1 (daysIn year month) (← Text.after? ['-'] rest)
  return rest

/-- What follows a time of day. -/
def time? (cs : List Char) : Option (List Char) := do
  let (_, rest) ← field? 2 0 23 cs
  let (_, rest) ← field? 2 0 59 (← Text.after? [':'] rest)
  let (_, rest) ← field? 2 0 60 (← Text.after? [':'] rest)
  match rest with
  | '.' :: more =>
    if (more.takeWhile Char.isDigit).isEmpty then none else some (more.dropWhile Char.isDigit)
  | _ => return rest

/-- What follows the distance from universal time, if there is one. -/
def offset? (cs : List Char) : Option (List Char) :=
  match cs with
  | 'Z' :: rest | 'z' :: rest => some rest
  | '+' :: rest | '-' :: rest => do
    let (_, rest) ← field? 2 0 23 rest
    let (_, rest) ← field? 2 0 59 (← Text.after? [':'] rest)
    return rest
  | _ => some cs

/-- Whether a date goes on with a time of day. -/
def hasTime : List Char → Bool
  | 'T' :: a :: b :: ':' :: _ | 't' :: a :: b :: ':' :: _ | ' ' :: a :: b :: ':' :: _ =>
    a.isDigit && b.isDigit
  | _ => false

/-- What follows a date, a time, or both. -/
def moment? (cs : List Char) : Option (List Char) :=
  match cs with
  | _ :: _ :: ':' :: _ => time? cs
  | _ => do
    let rest ← date? cs
    if hasTime rest then offset? (← time? (rest.drop 1)) else return rest

/-- Whether a date or a time begins here rather than a number. -/
def beginsMoment (cs : List Char) : Bool :=
  let ds := cs.takeWhile Char.isDigit
  match cs.drop ds.length with
  | '-' :: _ => ds.length == 4
  | ':' :: _ => ds.length == 2
  | _ => false

/-- A number, a date or a time. -/
def number? (cs : List Char) : Option (Document × List Char) :=
  if beginsMoment cs then
    (moment? cs).map fun rest =>
      (.table [("", .text (String.ofList (cs.take (cs.length - rest.length))))], rest)
  else match cs with
    | '0' :: 'x' :: rest => based? 16 rest
    | '0' :: 'o' :: rest => based? 8 rest
    | '0' :: 'b' :: rest => based? 2 rest
    | _ => decimal? cs

/-! ## Values -/

mutual

/-- A value, within so many more levels of lists and tables. -/
def value? : (fuel depth : Nat) → List Char → Option (Document × List Char)
  | 0, _, _ => none
  | fuel + 1, depth, cs =>
    match cs, depth with
    | '[' :: _, 0 | '\x7b' :: _, 0 => none
    | '[' :: rest, depth + 1 => items? fuel depth [] rest
    | '\x7b' :: rest, depth + 1 =>
      match skip rest with
      | '\x7d' :: rest => some (.table [], rest)
      | rest => entries? fuel depth (.mk .header []) rest
    | '\x22' :: _, _ | '\'' :: _, _ => (text? cs).map fun (s, rest) => (.text s, rest)
    | 't' :: 'r' :: 'u' :: 'e' :: rest, _ => some (.bool true, rest)
    | 'f' :: 'a' :: 'l' :: 's' :: 'e' :: rest, _ => some (.bool false, rest)
    | _, _ => number? cs

/-- The items of a list after those read, in reverse. -/
def items? : (fuel depth : Nat) → (read : List Document) → List Char →
    Option (Document × List Char)
  | 0, _, _, _ => none
  | fuel + 1, depth, read, cs =>
    match skipLines (cs.length + 1) cs with
    | ']' :: rest => some (.list read.reverse, rest)
    | rest => do
      let (d, rest) ← value? fuel depth rest
      match skipLines (rest.length + 1) rest with
      | ',' :: rest => items? fuel depth (d :: read) rest
      | ']' :: rest => return (.list (d :: read).reverse, rest)
      | _ => none

/-- The entries of a table in braces after those read. -/
def entries? : (fuel depth : Nat) → (read : Section) → List Char → Option (Document × List Char)
  | 0, _, _, _ => none
  | fuel + 1, depth, read, cs => do
    let ((path, name), rest) ← path? cs
    let rest ← Text.after? ['='] rest
    let (d, rest) ← value? fuel depth (skip rest)
    let read ← read.addEntry path name d
    match skip rest with
    | ',' :: rest => entries? fuel depth read rest
    | '\x7d' :: rest => return (read.toDocument, rest)
    | _ => none

end

/-! ## Documents -/

/-- What has been read: all tables, and the path to the one that entries go to. -/
structure State where
  root : Section := .mk .header []
  path : List String := []

/-- Reads what a line holds, which may be a value of several lines. -/
def line? (s : State) (cs : List Char) : Option (State × List Char) :=
  match skip cs with
  | [] => some (s, [])
  | '#' :: _ | '\n' :: _ | '\r' :: _ => (endLine? cs).map (s, ·)
  | '[' :: '[' :: rest => do
    let ((path, name), rest) ← path? rest
    let rest ← endLine? (← Text.after? [']', ']'] rest)
    return (⟨← s.root.openListed path name, path ++ [name]⟩, rest)
  | '[' :: rest => do
    let ((path, name), rest) ← path? rest
    let rest ← endLine? (← Text.after? [']'] rest)
    return (⟨← s.root.openTable path name, path ++ [name]⟩, rest)
  | rest => do
    let ((path, name), rest) ← path? rest
    let rest ← Text.after? ['='] rest
    let (d, rest) ← value? (2 * rest.length + 2) maxDepth (skip rest)
    let rest ← endLine? rest
    let root ← s.root.update .implied (Section.addEntry path name d) s.path
    return (⟨root, s.path⟩, rest)

/-- Reads lines until nothing is left. -/
def lines? : (fuel : Nat) → State → List Char → Option Section
  | _, s, [] => some s.root
  | 0, _, _ => none
  | fuel + 1, s, cs => do
    let (s, rest) ← line? s cs
    lines? fuel s rest

end Toml

/-- The document that a TOML text holds. -/
def ofToml? (text : String) : Option Document :=
  let cs := match text.toList with
    | '\ufeff' :: rest => rest
    | cs => cs
  (Toml.lines? (cs.length + 1) {} cs).map Toml.Section.toDocument

end Document
end DocExamples
