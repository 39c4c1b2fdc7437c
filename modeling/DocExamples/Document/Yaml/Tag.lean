/-
# Tags, directives and anchors of YAML

A tag is a handle and a suffix, and stands for the suffix after the prefix that the document
declares for the handle; a verbatim tag has no handle. Suffixes and prefixes are kept as bytes,
each of them as the character of its number, and end before the first zero byte. Directives stand
before a document: the version of the notation, and the prefixes of handles.
-/

import DocExamples.Document.Yaml.Scalar

namespace DocExamples
namespace Document
namespace Yaml

/-- A tag as it is written. -/
structure Tag where
  handle : List Char
  suffix : List Char
deriving DecidableEq, Repr

/-- Whether a character may stand in a tag, `verbatim` or not. -/
def isTagChar (verbatim : Bool) (c : Char) : Bool :=
  isWordChar c || ";/?:@&=+$.%!~*'()".contains c || (verbatim && (c == ',' || c == '[' || c == ']'))

/-- The byte that a percent sign and two hexadecimal digits stand for. -/
def percent? : List Char → Option (Nat × List Char)
  | '%' :: a :: b :: rest => (hex? [a, b]).map (·, rest)
  | _ => none

/-- The number of bytes of a character that starts with the byte `b`. -/
def leadWidth? (b : Nat) : Option Nat :=
  if b < 0x80 then some 1
  else if 0xC0 ≤ b ∧ b < 0xE0 then some 2
  else if 0xE0 ≤ b ∧ b < 0xF0 then some 3
  else if 0xF0 ≤ b ∧ b < 0xF8 then some 4
  else none

/-- The next `n` escaped bytes, each of which goes on with a character. -/
def trailing? : (n : Nat) → List Char → Option (List Char × List Char)
  | 0, cs => some ([], cs)
  | n + 1, cs => do
    let (b, rest) ← percent? cs
    guard (0x80 ≤ b && b < 0xC0)
    let (bytes, rest) ← trailing? n rest
    return (Char.ofNat b :: bytes, rest)

/-- The characters of a tag with escaped bytes decoded. -/
def unescaped? : (fuel : Nat) → List Char → Option (List Char)
  | 0, _ => none
  | _ + 1, [] => some []
  | fuel + 1, c :: rest =>
    if c == '%' then do
      let (b, rest) ← percent? (c :: rest)
      let width ← leadWidth? b
      let (bytes, rest) ← trailing? (width - 1) rest
      return Char.ofNat b :: bytes ++ (← unescaped? fuel rest)
    else return c :: (← unescaped? fuel rest)

/-- The part of a tag after `before`, and the place after it. The two may not both be empty. -/
def tagText? (verbatim : Bool) (before : List Char) (c : Cursor) : Option (List Char × Cursor) := do
  let (written, after) := c.span (isTagChar verbatim)
  let cs ← unescaped? (written.length + 1) written
  guard (!(before.isEmpty && cs.isEmpty))
  return ((before.drop 1 ++ cs).takeWhile (· != Char.ofNat 0), after)

/-- A handle: an exclamation mark, and further characters if another one follows them. -/
def handle? (c : Cursor) : Option (List Char × Cursor) :=
  if c.head? == some '!' then
    let (name, d) := (c.advance 1).span isWordChar
    if d.head? == some '!' then some ('!' :: name ++ ['!'], d.advance 1)
    else some ('!' :: name, d)
  else none

/-- A tag and the place after it. -/
def tag? (flow : Bool) (c : Cursor) : Option (Tag × Cursor) := do
  let (tag, c) ← if (c.advance 1).head? == some '<' then do
      let (suffix, c) ← tagText? true [] (c.advance 2)
      guard (c.head? == some '>')
      some (Tag.mk [] suffix, c.advance 1)
    else do
      let (handle, c) ← handle? c
      if handle.length ≥ 2 && handle.getLast? == some '!' then
        let (suffix, c) ← tagText? false [] c
        some (Tag.mk handle suffix, c)
      else
        let (suffix, c) ← tagText? false handle c
        some (if suffix.isEmpty then Tag.mk [] ['!'] else Tag.mk ['!'] suffix, c)
  guard (endsWord c.rest || (flow && c.head? == some ','))
  return (tag, c)

/-- The name of an anchor or an alias after its sign, and the place after it. -/
def anchorName? (c : Cursor) : Option (String × Cursor) :=
  let (name, c) := (c.advance 1).span isWordChar
  let ends := endsWord c.rest ||
    c.head?.any fun x => ['?', ':', ',', ']', '\x7d', '%', '@', '\x60'].contains x
  if name.isEmpty || !ends then none else some (String.ofList name, c)

/-- A line before a document. -/
inductive Directive where
  | version (major minor : Nat)
  | tagPrefix (handle content : List Char)
deriving DecidableEq, Repr

/-- A number of at most nine digits. -/
def versionNumber? (c : Cursor) : Option (Nat × Cursor) := do
  let (ds, c) := c.span Char.isDigit
  guard (!ds.isEmpty && ds.length < 10)
  return (ds.foldl (fun n d => n * 10 + (d.toNat - 48)) 0, c)

/-- A directive and the end of its line. -/
def directive? (c : Cursor) : Option (Directive × Cursor) := do
  let (name, c) := (c.advance 1).span isWordChar
  guard (endsWord c.rest)
  let c := c.skip isBlank
  let (d, c) ← match String.ofList name with
    | "YAML" => do
      let (major, c) ← versionNumber? c
      guard (c.head? == some '.')
      let (minor, c) ← versionNumber? (c.advance 1)
      some (Directive.version major minor, c)
    | "TAG" => do
      let (handle, c) ← handle? c
      guard (handle == ['!'] || (handle.length ≥ 2 && handle.getLast? == some '!'))
      guard (c.head?.any isBlank)
      let (content, c) ← tagText? true [] (c.skip isBlank)
      guard (endsWord c.rest)
      some (Directive.tagPrefix handle content, c)
    | _ => none
  return (d, ← c.endOfLine?)

/-- The handles that a document declares and the prefixes that they stand for. -/
abbrev Handles := List (List Char × List Char)

/-- The handles that every document has. -/
def Handles.standard : Handles := [(['!'], ['!']), (['!', '!'], "tag:yaml.org,2002:".toList)]

/-- The handles that directives declare, in front of the standard ones. The version is given once
at most, and is 1.1 or 1.2; a handle is declared once at most. -/
def Handles.ofDirectives? (ds : List Directive) : Option Handles := do
  let declared := ds.filterMap fun
    | .tagPrefix handle content => some (handle, content)
    | .version .. => none
  let versions := ds.filter fun
    | .version .. => true
    | .tagPrefix .. => false
  guard (versions.length ≤ 1)
  guard (versions.all fun d => d == .version 1 1 || d == .version 1 2)
  guard ((declared.map (·.1)).eraseDups.length == declared.length)
  return declared ++ standard

/-- What a tag stands for. -/
def Tag.resolve? (handles : Handles) (t : Tag) : Option (List Char) :=
  if t.handle.isEmpty then some t.suffix
  else (handles.find? (·.1 == t.handle)).map fun h => h.2 ++ t.suffix

end Yaml
end Document
end DocExamples
