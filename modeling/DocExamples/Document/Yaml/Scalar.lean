/-
# Scalars of YAML

A plain scalar has no quotes; a quoted one stands between single quotes, which are doubled inside,
or between double quotes, with escapes after a backslash. Both may go over lines, which are folded.
A block scalar is made of the lines after its header that are indented, kept as they are or folded.

The readers take fuel, more than there are characters.
-/

import DocExamples.Document.Yaml.Cursor

namespace DocExamples
namespace Document
namespace Yaml

/-- Whether a character means something between brackets. -/
def isFlowSign (c : Char) : Bool := [',', '[', ']', '\x7b', '\x7d'].contains c

/-! ## Plain scalars -/

/-- Whether a plain scalar can start here. -/
def startsPlain (flow : Bool) : List Char → Bool
  | [] => false
  | c :: rest =>
    if c == '-' then !(rest.head?.any isBlank)
    else if c == '?' || c == ':' then !flow && !endsWord rest
    else !(isBlankOrBreak c || isFlowSign c ||
      ['#', '&', '*', '!', '|', '>', '\x27', '\x22', '%', '@', '\x60'].contains c)

/-- A word of a plain scalar, added to `read` in reverse. A colon ends it before a blank, and is
refused before most signs between brackets. -/
def plainWord? (flow : Bool) : (read : List Char) → List Char → Option (List Char)
  | read, [] => some read
  | read, c :: rest =>
    if isBlankOrBreak c then some read
    else if flow && c == ':' && rest.head?.any (fun d => isFlowSign d || d == '?') then none
    else if (c == ':' && endsWord rest) || (flow && isFlowSign c) then some read
    else plainWord? flow (c :: read) rest

/-- The words of a plain scalar from here on, added to `read` in reverse. In a block its lines
after the first one stand at the column `low` or further right. Tells also whether the scalar is
followed by a new line. -/
def plainWords? (flow : Bool) (low : Nat) : (fuel : Nat) → (read : List Char) → (gap : Gap) →
    Cursor → Option (List Char × Bool × Cursor)
  | 0, _, _, _ => none
  | fuel + 1, read, gap, c => do
    if c.isMark || c.head? == some '#' then return (read, gap.isBroken, c)
    let word ← plainWord? flow [] c.rest
    if word.isEmpty then return (read, gap.isBroken, c)
    let read := word ++ (gap.text.reverse ++ read)
    let c := c.advance word.length
    if !c.head?.any isBlankOrBreak then return (read, false, c)
    let (gap, c) ← c.gap? false low
    if !flow && c.column < low then return (read, gap.isBroken, c)
    plainWords? flow low fuel read gap c

/-- A plain scalar, whether it is followed by a new line, and the place after it. -/
def plain? (fuel : Nat) (flow : Bool) (low : Nat) (c : Cursor) :
    Option (String × Bool × Cursor) := do
  let (read, broken, c) ← plainWords? flow low fuel [] ⟨[], [], false⟩ c
  return (String.ofList read.reverse, broken, c)

/-! ## Quoted scalars -/

/-- The value of hexadecimal digits. -/
def hex? (ds : List Char) : Option Nat :=
  ds.foldlM (fun n c =>
    if c.isDigit then some (n * 16 + (c.toNat - 48))
    else if 'a' ≤ c ∧ c ≤ 'f' then some (n * 16 + (c.toNat - 87))
    else if 'A' ≤ c ∧ c ≤ 'F' then some (n * 16 + (c.toNat - 55))
    else none) 0

/-- The character with the code that the next `n` digits give, and the number of characters after
the backslash that make up the escape. -/
def coded? (n : Nat) (cs : List Char) : Option (Char × Nat) := do
  let ds := cs.take n
  guard (ds.length == n)
  let code ← hex? ds
  guard code.isValidChar
  return (Char.ofNat code, n + 1)

/-- The character of an escape and the number of characters after its backslash. -/
def escape? : List Char → Option (Char × Nat)
  | [] => none
  | c :: rest =>
    match c with
    | '0' => some (Char.ofNat 0, 1)
    | 'a' => some ('\x07', 1)
    | 'b' => some ('\x08', 1)
    | 't' | '\t' => some ('\t', 1)
    | 'n' => some ('\n', 1)
    | 'v' => some ('\x0b', 1)
    | 'f' => some ('\x0c', 1)
    | 'r' => some ('\r', 1)
    | 'e' => some ('\x1b', 1)
    | ' ' | '\x22' | '/' | '\x5c' => some (c, 1)
    | 'N' => some (Char.ofNat 0x85, 1)
    | '_' => some (Char.ofNat 0xA0, 1)
    | 'L' => some (Char.ofNat 0x2028, 1)
    | 'P' => some (Char.ofNat 0x2029, 1)
    | 'x' => coded? 2 rest
    | 'u' => coded? 4 rest
    | 'U' => coded? 8 rest
    | _ => none

/-- The rest of a quoted scalar after its opening quote. `read` is what has been read, in
reverse. -/
def quotedBody? (quote : Char) : (fuel : Nat) → (read : List Char) → Cursor →
    Option (String × Cursor)
  | 0, _, _ => none
  | fuel + 1, read, c =>
    match c.rest with
    | [] => none
    | x :: rest =>
      if c.isMark then none
      else if isBlankOrBreak x then do
        let (gap, c) ← c.gap? false 0
        quotedBody? quote fuel (gap.text.reverse ++ read) c
      else if x == quote then
        if quote == '\x27' && rest.head? == some quote then
          quotedBody? quote fuel (quote :: read) (c.advance 2)
        else some (String.ofList read.reverse, c.advance 1)
      else if x == '\x5c' && quote == '\x22' then
        match (c.advance 1).lineBreak? with
        | some (_, c) => do
          let (gap, c) ← c.gap? true 0
          quotedBody? quote fuel (gap.text.reverse ++ read) c
        | none => do
          let (d, n) ← escape? rest
          quotedBody? quote fuel (d :: read) (c.advance (n + 1))
      else quotedBody? quote fuel (x :: read) (c.advance 1)

/-- A scalar between quotes, and the place after it. -/
def quoted? (fuel : Nat) (c : Cursor) : Option (String × Cursor) := do
  let quote ← c.head?
  quotedBody? quote fuel [] (c.advance 1)

/-! ## Block scalars -/

/-- What happens to line breaks at the end of a block scalar. -/
inductive Chomping where
  | strip | clip | keep
deriving DecidableEq, Repr

/-- The sign of a chomping. -/
def Chomping.ofSign? : Option Char → Option Chomping
  | some '-' => some .strip
  | some '+' => some .keep
  | _ => none

/-- The digit of an indentation, which is not zero. The outer value is missing if it is. -/
def increment? (c : Cursor) : Option (Option Nat × Cursor) :=
  match c.head? with
  | some d =>
    if d == '0' then none
    else if d.isDigit then some (some (d.toNat - 48), c.advance 1)
    else some (none, c)
  | none => some (none, c)

/-- The header of a block scalar after its sign: the chomping and the indentation, in any order. -/
def header? (c : Cursor) : Option (Chomping × Option Nat × Cursor) := do
  match Chomping.ofSign? c.head? with
  | some chomping =>
    let (n, c) ← increment? (c.advance 1)
    return (chomping, n, c)
  | none =>
    let (n, c) ← increment? c
    match n, Chomping.ofSign? c.head? with
    | some n, some chomping => return (chomping, some n, c.advance 1)
    | n, _ => return (.clip, n, c)

/-- Goes over empty lines to the next line that is not, adding line breaks to `breaks` in reverse.
Spaces left of `indent` are skipped, where a tab is refused; without an `indent` all spaces are.
`deepest` is the rightmost column that was reached. -/
def emptyLines? (indent : Option Nat) : (breaks : List Char) → (deepest line column : Nat) →
    List Char → Option (List Char × Nat × Cursor)
  | breaks, deepest, line, column, c :: rest =>
    let inside := indent.all (column < ·)
    if inside && c == ' ' then
      emptyLines? indent breaks (max deepest (column + 1)) line (column + 1) rest
    else if inside && c == '\t' then none
    else if isBreak c then emptyLines? indent (c :: breaks) deepest (line + 1) 0 rest
    else some (breaks, deepest, ⟨line, column, c :: rest⟩)
  | breaks, deepest, line, column, [] => some (breaks, max deepest column, ⟨line, column, []⟩)

/-- What has been read of a block scalar, in reverse: its text, the break at the end of the last
line, whether that line starts with a blank, and the breaks after it. -/
structure BlockText where
  text : List Char
  lineBreak : Option Char
  blank : Bool
  more : List Char

/-- Adds a line. When folding, a line feed between two lines that do not start with a blank is
left out, and replaced by a space unless empty lines follow. -/
def BlockText.add (folding : Bool) (b : BlockText) (line : List Char) : BlockText :=
  let blank := line.head?.any isBlank
  let between :=
    if folding && b.lineBreak == some '\n' && !b.blank && !blank then
      if b.more.isEmpty then [' '] else b.more
    else b.more ++ b.lineBreak.toList
  { text := line.reverse ++ (between ++ b.text), lineBreak := none, blank, more := [] }

/-- The lines of a block scalar at the column `indent`. -/
def blockLines? (folding : Bool) (indent : Nat) : (fuel : Nat) → BlockText → Cursor →
    Option (BlockText × Cursor)
  | 0, _, _ => none
  | fuel + 1, b, c => do
    if c.column != indent || c.rest.isEmpty then return (b, c)
    let (line, c) := c.span fun x => !isBreak x
    let b := b.add folding line
    let b := { b with lineBreak := (c.lineBreak?).map Prod.fst }
    let c := c.nextLine
    let (more, _, c) ← emptyLines? (some indent) [] 0 c.line c.column c.rest
    blockLines? folding indent fuel { b with more } c

/-- A block scalar, its sign being here, and the place after it. `low` is the least column of its
lines. -/
def block? (fuel : Nat) (low : Nat) (c : Cursor) : Option (String × Cursor) := do
  let folding := c.head? == some '>'
  let (chomping, increment, c) ← header? (c.advance 1)
  let c := (← c.endOfLine?).nextLine
  let given := increment.map fun n => (low - 1) + n
  let (more, deepest, c) ← emptyLines? given [] 0 c.line c.column c.rest
  let indent := given.getD (max (max deepest low) 1)
  let (b, c) ← blockLines? folding indent fuel ⟨[], none, false, more⟩ c
  let ending := match chomping with
    | .strip => []
    | .clip => b.lineBreak.toList
    | .keep => b.more ++ b.lineBreak.toList
  return (String.ofList (ending ++ b.text).reverse, c)

end Yaml
end Document
end DocExamples
