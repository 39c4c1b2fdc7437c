/-
# Declarations line by line

The patterns are tried on every line in order and the first one that matches decides; containers
and namespaces come before what can be called. Nothing is known beyond the line, so a statement
that looks like a prototype is taken for one and a signature over several lines is missed.
-/

import DocExamples.Declaration
import DocExamples.Pattern.Basic
import DocExamples.Scan.Comment
import DocExamples.Unicode.PropertyName

namespace DocExamples
namespace Scan

/-! ## The patterns -/

/-- Patterns one after another. -/
def row : List Pattern → Pattern
  | [] => .empty
  | [p] => p
  | p :: ps => .seq p (row ps)

/-- The first of several patterns that lets the rest match. -/
def anyOf : List Pattern → Pattern
  | [] => .chars .empty
  | [p] => p
  | p :: ps => .alt p (anyOf ps)

/-- The characters of a text. -/
def literally (s : String) : Pattern := row (s.toList.map fun c => .chars (.single c))

def many (s : CharSet) : Pattern := .times (.chars s) 0 none true

def oneOrMore (s : CharSet) : Pattern := .times (.chars s) 1 none true

def optionally (p : Pattern) : Pattern := .times p 0 (some 1) true

/-- The number of the group around the type that a callable returns. -/
def returnGroup : Nat := 1

/-- The number of the group around the declared name. -/
def nameGroup : Nat := 2

/-- The start of the line and its blanks. -/
def indentation : Pattern := .seq (.anchor .textStart .word) (many .blank)

/-- The declared name. -/
def declaredName : Pattern := .group nameGroup (oneOrMore .word)

/-- The word `template` and its parameters between angles. -/
def templateHead : Pattern :=
  row [literally "template", many .blank, .chars (.single '<'), many (CharSet.single '>').compl,
    .chars (.single '>'), many .blank]

/-- A word, blanks and the declared name. -/
def container (word : Pattern) : Pattern := row [word, oneOrMore .blank, declaredName]

/-- The words in front of the type that a callable returns, that type, the name, the parameters
between parentheses on one line, the words after them, and what starts the body or ends the
prototype. -/
def callable : Pattern :=
  row [
    .times
      (.seq (anyOf (["inline", "static", "constexpr", "virtual", "extern"].map literally))
        (oneOrMore .blank)) 0 none true,
    optionally (.seq (literally "const") (oneOrMore .blank)),
    optionally
      (.seq (.group returnGroup (oneOrMore (CharSet.word.union (.ofList [':', '<', '>']))))
        (oneOrMore (CharSet.blank.union (.ofList ['*', '&'])))),
    declaredName, many .blank, .chars (.single '('), many (CharSet.single ')').compl,
    .chars (.single ')'), many .blank,
    optionally (literally "const"), many .blank,
    optionally (literally "override"), many .blank,
    optionally (literally "noexcept"), many .blank,
    .chars (.ofList ['\x7b', ';'])]

/-- The patterns in the order in which they are tried. -/
def declarationPatterns : List (Pattern × DeclarationKind) := [
  (row [indentation, templateHead, container (anyOf [literally "class", literally "struct"])],
    .classTemplate),
  (row [indentation, container (literally "class")], .class_),
  (row [indentation, container (literally "struct")], .struct),
  (row [indentation, container (literally "union")], .union),
  (row [indentation, container (literally "namespace")], .namespace_),
  (row [indentation, templateHead, callable], .functionTemplate),
  (row [indentation, callable], .function)]

/-! ## Lines -/

/-- Words that start a statement that looks like a callable. -/
def statementWords : List String :=
  ["if", "else", "for", "while", "do", "switch", "case", "return", "catch", "throw", "new",
    "delete", "sizeof", "alignof", "decltype", "typeid", "static_assert", "co_return"]

/-- What a line declares: the name, the kind and the column of the name. -/
structure LineMatch where
  name : String
  kind : DeclarationKind
  column : UInt32
deriving DecidableEq, Repr

/-- The text of a group, empty if it took no part in the match. -/
def groupText (line : Array Char) (r : Reached) (group : Nat) : String :=
  match r.capture? group with
  | some (lo, hi) => String.ofList (line.toList.drop lo |>.take (hi - lo))
  | none => ""

/-- The first pattern that matches decides. A statement is no declaration, whatever the patterns
after it say. -/
def matchLine? (line : String) : Option LineMatch :=
  let cs := line.toList.toArray
  match declarationPatterns.findSome? fun (p, kind) => (p.match? cs).map (·, kind) with
  | none => none
  | some (r, kind) =>
    let name := groupText cs r nameGroup
    if kind.isCallable && (statementWords.contains name ||
        statementWords.contains (groupText cs r returnGroup)) then none
    else
      let start := ((r.capture? nameGroup).map (·.1)).getD 0
      some ⟨name, kind, UInt32.ofNat (start + 1)⟩

/-- The declarations in the lines of a file, one line after the other. -/
def heuristic (file : String) (lines : List String) : List Declaration :=
  lines.zipIdx.filterMap fun (line, index) =>
    (matchLine? line).map fun m => {
      name := m.name
      kind := m.kind
      location := ⟨file, UInt32.ofNat (index + 1), m.column⟩
      comment := attachedComment? lines index }

end Scan
end DocExamples
