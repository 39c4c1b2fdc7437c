/-
# Tokens of YAML

The scanner cuts a text into tokens. In a block, indentation opens and closes collections: a
collection starts at the column of its first key or dash, and ends before the first token left of
it. Whether something is a key shows only at the colon after it, so each place where a key could
start is kept in mind, for each level of brackets; a key stays on one line and has at most 1024
characters before its colon.
-/

import DocExamples.Document.Yaml.Tag

namespace DocExamples
namespace Document
namespace Yaml

inductive Token where
  | directive (d : Directive)
  | documentStart
  | documentEnd
  | blockSequence
  | blockMapping
  /-- The end of a block sequence or mapping. -/
  | blockEnd
  | flowSequence
  | flowSequenceEnd
  | flowMapping
  | flowMappingEnd
  /-- The comma between brackets. -/
  | flowEntry
  /-- The dash before an item. -/
  | entry
  | key
  | value
  | alias (name : String)
  | anchor (name : String)
  | tag (t : Tag)
  | scalar (isPlain : Bool) (content : String)
deriving DecidableEq, Repr

/-- A place where a key may have started. -/
structure PossibleKey where
  line : Nat
  column : Nat
  /-- The number of tokens before it. -/
  number : Nat
  /-- Whether the place can hold nothing but a key. -/
  isRequired : Bool

/-- What the scanner has read, and what it keeps in mind. -/
structure Scanner where
  cursor : Cursor
  /-- The tokens so far, in reverse. -/
  tokens : List Token
  count : Nat
  /-- The columns of the open block collections, the innermost one first. -/
  indents : List Nat
  /-- The possible keys of the levels of brackets, the innermost one first. -/
  keys : List (Option PossibleKey)
  /-- Whether a key may start here. -/
  keyAllowed : Bool

namespace Scanner

def ofText (cs : List Char) : Scanner := ⟨.ofText cs, [], 0, [], [none], true⟩

/-- Whether the scanner is between brackets. -/
def inFlow (s : Scanner) : Bool := 1 < s.keys.length

/-- The least column of what belongs to the innermost block collection. -/
def low (s : Scanner) : Nat :=
  match s.indents with
  | [] => 0
  | i :: _ => i + 1

def push (s : Scanner) (t : Token) : Scanner :=
  { s with tokens := t :: s.tokens, count := s.count + 1 }

/-- Puts a token after the first `number` ones. -/
def insert (s : Scanner) (number : Nat) (t : Token) : Scanner :=
  let later := s.tokens.take (s.count - number)
  { s with tokens := later ++ t :: s.tokens.drop (s.count - number), count := s.count + 1 }

/-- Closes the block collections right of a column; all of them if there is none. -/
def close (s : Scanner) (column : Option Nat) : Scanner :=
  if s.inFlow then s
  else
    let closed := s.indents.takeWhile fun i => column.all (· < i)
    { s with
      tokens := List.replicate closed.length .blockEnd ++ s.tokens
      count := s.count + closed.length
      indents := s.indents.drop closed.length }

/-- Opens a block collection at a column, after the first `number` tokens, unless it is open. -/
def open' (s : Scanner) (column number : Nat) (t : Token) : Scanner :=
  if s.inFlow || column < s.low then s
  else { s.insert number t with indents := column :: s.indents }

/-- Forgets the possible key of this level, if it need not be one. -/
def forgetKey? (s : Scanner) : Option Scanner :=
  match s.keys with
  | some k :: outer => if k.isRequired then none else some { s with keys := none :: outer }
  | _ => some s

/-- Notes that a key may start here. -/
def noteKey? (s : Scanner) : Option Scanner :=
  if s.keyAllowed then do
    let s ← s.forgetKey?
    let isRequired := !s.inFlow && s.indents.head? == some s.cursor.column
    let k : PossibleKey := ⟨s.cursor.line, s.cursor.column, s.count, isRequired⟩
    return { s with keys := some k :: s.keys.drop 1 }
  else some s

/-- Forgets the possible keys that are too far back. -/
def forgetStale? (s : Scanner) : Option Scanner := do
  let keys ← s.keys.mapM fun
    | some k =>
      if k.line < s.cursor.line || k.column + 1024 < s.cursor.column then
        if k.isRequired then none else some none
      else some (some k)
    | none => some none
  return { s with keys }

/-- Goes to the next token, over blanks, comments and line breaks. Where a key may start in a
block, tabs are no blanks. -/
def skipBlanks : (fuel : Nat) → Scanner → Scanner
  | 0, s => s
  | fuel + 1, s =>
    let c := s.cursor
    let c := if c.column == 0 && c.head? == some (Char.ofNat 0xFEFF) then c.advance 1 else c
    let c := c.skip fun x => x == ' ' || (x == '\t' && (s.inFlow || !s.keyAllowed))
    let c := if c.head? == some '#' then c.skip (fun x => !isBreak x) else c
    match c.lineBreak? with
    | some (_, c) => skipBlanks fuel { s with cursor := c, keyAllowed := s.keyAllowed || !s.inFlow }
    | none => { s with cursor := c }

/-- Reads a token of one sign. -/
def sign (s : Scanner) (t : Token) (width : Nat) : Scanner :=
  { s.push t with cursor := s.cursor.advance width }

/-- Reads a mark between documents, or a directive, before which all collections end. -/
def atMargin? (s : Scanner) (t : Token) (c : Cursor) : Option Scanner := do
  let s ← (s.close none).forgetKey?
  return { s.push t with cursor := c, keyAllowed := false }

/-- Reads the opening bracket of a collection, which may be a key itself. -/
def flowStart? (s : Scanner) (t : Token) : Option Scanner := do
  let s ← s.noteKey?
  return { s.sign t 1 with keys := none :: s.keys, keyAllowed := true }

def flowEnd? (s : Scanner) (t : Token) : Option Scanner := do
  let s ← s.forgetKey?
  let keys := if s.inFlow then s.keys.drop 1 else s.keys
  return { s.sign t 1 with keys, keyAllowed := false }

/-- Reads a dash or a question mark in a block, which opens a collection. -/
def blockSign? (s : Scanner) (opening t : Token) (keyAllowed : Bool) : Option Scanner := do
  guard (s.inFlow || s.keyAllowed)
  let s ← (s.open' s.cursor.column s.count opening).forgetKey?
  return { s.sign t 1 with keyAllowed }

/-- Reads the colon after a key. -/
def value? (s : Scanner) : Option Scanner :=
  match s.keys with
  | some k :: outer =>
    let s := (s.insert k.number .key).open' k.column k.number .blockMapping
    some { s.sign .value 1 with keys := none :: outer, keyAllowed := false }
  | _ => do
    guard (s.inFlow || s.keyAllowed)
    let s := s.open' s.cursor.column s.count .blockMapping
    return { s.sign .value 1 with keyAllowed := !s.inFlow }

/-- Reads a token that may be a key or a part of one. -/
def content? (s : Scanner) (read : Cursor → Option (Token × Cursor)) : Option Scanner := do
  let s ← s.noteKey?
  let (t, c) ← read s.cursor
  return { s.push t with cursor := c, keyAllowed := false }

def block? (s : Scanner) (fuel : Nat) : Option Scanner := do
  let s ← s.forgetKey?
  let (content, c) ← Yaml.block? fuel s.low s.cursor
  return { s.push (.scalar false content) with cursor := c, keyAllowed := true }

def plain? (s : Scanner) (fuel : Nat) : Option Scanner := do
  let s ← s.noteKey?
  let (content, broken, c) ← Yaml.plain? fuel s.inFlow s.low s.cursor
  return { s.push (.scalar true content) with cursor := c, keyAllowed := broken }

/-- Reads the token that starts at the character `x`. -/
def token? (s : Scanner) (fuel : Nat) (x : Char) (rest : List Char) : Option Scanner :=
  let c := s.cursor
  let single := endsWord rest
  if c.column == 0 && x == '%' then do
    let (d, after) ← directive? c
    s.atMargin? (.directive d) after.nextLine
  else if c.startsMark '-' then s.atMargin? .documentStart (c.advance 3)
  else if c.startsMark '.' then s.atMargin? .documentEnd (c.advance 3)
  else if x == '[' then s.flowStart? .flowSequence
  else if x == '\x7b' then s.flowStart? .flowMapping
  else if x == ']' then s.flowEnd? .flowSequenceEnd
  else if x == '\x7d' then s.flowEnd? .flowMappingEnd
  else if x == ',' then do
    let s ← s.forgetKey?
    return { s.sign .flowEntry 1 with keyAllowed := true }
  else if x == '-' && single then s.blockSign? .blockSequence .entry true
  else if x == '?' && (s.inFlow || single) then s.blockSign? .blockMapping .key (!s.inFlow)
  else if x == ':' && (s.inFlow || single) then s.value?
  else if x == '*' then s.content? fun c => (anchorName? c).map fun (n, c) => (.alias n, c)
  else if x == '&' then s.content? fun c => (anchorName? c).map fun (n, c) => (.anchor n, c)
  else if x == '!' then s.content? fun c => (tag? s.inFlow c).map fun (t, c) => (.tag t, c)
  else if !s.inFlow && (x == '|' || x == '>') then s.block? fuel
  else if x == '\x27' || x == '\x22' then
    s.content? fun c => (quoted? fuel c).map fun (t, c) => (.scalar false t, c)
  else if startsPlain s.inFlow (x :: rest) then s.plain? fuel
  else none

/-- Reads tokens up to the end of the text. The fuel is more than there are characters. -/
def run? : (fuel : Nat) → Scanner → Option (List Token)
  | 0, _ => none
  | fuel + 1, s => do
    let s ← (s.skipBlanks (fuel + 1)).forgetStale?
    let s := s.close (some s.cursor.column)
    match s.cursor.rest with
    | [] => do
      let s ← (s.close none).forgetKey?
      return s.tokens.reverse
    | x :: rest => run? fuel (← s.token? (fuel + 1) x rest)

end Scanner

/-- The tokens of a text. -/
def tokens? (text : List Char) : Option (List Token) := do
  guard (text.all isAllowed)
  let cs := normalLines text
  Scanner.run? (cs.length + 1) (.ofText cs)

end Yaml
end Document
end DocExamples
