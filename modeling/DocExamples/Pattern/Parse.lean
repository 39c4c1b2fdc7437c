/-
# Reading patterns

The written form of patterns: literals and escapes, classes in brackets, groups with or without
a name, flags, choices, repetitions and anchors. A text that is no pattern, that nests too deep,
or whose pattern is too large, is refused.

The reader keeps the open groups on a stack and consumes at least one character in every step, so
the number of characters bounds the number of steps.
-/

import DocExamples.Pattern.Bracket
import DocExamples.Pattern.Size

namespace DocExamples

/-- Why a text is not accepted as a pattern. -/
inductive PatternError where
  | malformed
  /-- The pattern is well-formed, but larger than `Pattern.sizeLimit`. -/
  | tooLarge
deriving DecidableEq, Repr

namespace Pattern

/-- How deep groups, rows, choices, classes and repetitions may nest. -/
def nestLimit : Nat := 250

/-- A form and the depth to which its written form nests. -/
structure Piece where
  form : Form
  depth : Nat := 0

namespace Piece

/-- The depth of one or more pieces side by side. -/
def depthOf (ps : List Piece) : Nat :=
  let deepest := ps.foldl (fun n p => max n p.depth) 0
  if 2 ≤ ps.length then deepest + 1 else deepest

/-- Pieces one after another, given in reverse. -/
def sequence (reversed : List Piece) : Piece :=
  ⟨.sequence (reversed.reverse.map form), depthOf reversed⟩

/-- A choice between pieces, given in reverse. -/
def choice (reversed : List Piece) : Piece :=
  match reversed with
  | [p] => p
  | ps => ⟨.choose (ps.reverse.map form), depthOf ps⟩

/-- A repeated piece. -/
def repeated (p : Piece) (least : Nat) (most : Option Nat) (greedy : Bool) : Piece :=
  ⟨p.form.repeated least most greedy, p.depth + 1⟩

/-- A piece in parentheses, captured if they have a number. -/
def grouped (p : Piece) (index : Option Nat) : Piece :=
  match index with
  | some n => ⟨.group n p.form, p.depth + 1⟩
  | none => ⟨p.form, p.depth + 1⟩

end Piece

/-! ## Signs -/

/-- The form of one item outside a class. -/
def formOf (f : Flags) : Item → Form
  | .literal c => if f.ignoreCase then .ofSet (f.fold (.single c)) else .text [c]
  | .set s => .ofSet s
  | .anchor a => .anchor a false
  | .boundary a => .anchor a !f.unicode

/-- The set that a dot stands for. -/
def dot (f : Flags) : CharSet :=
  if f.dotAll then .full
  else if f.crlf then (CharSet.ofList ['\n', '\r']).compl
  else (CharSet.single '\n').compl

/-- The anchor of a caret. -/
def caret (f : Flags) : Anchor :=
  if !f.multiLine then .textStart else if f.crlf then .anyLineStart else .lineStart

/-- The anchor of a dollar sign. -/
def dollar (f : Flags) : Anchor :=
  if !f.multiLine then .textEnd else if f.crlf then .anyLineEnd else .lineEnd

/-- Whether a repetition sign is followed by the sign of reluctance. -/
def reluctant (rest : List Char) : Bool × List Char :=
  match rest with
  | '?' :: rest => (true, rest)
  | _ => (false, rest)

/-- A decimal number of a counted repetition, blanks around it allowed. -/
def count? (f : Flags) (rest : List Char) : Option (Nat × List Char) :=
  let rest := rest.dropWhile Text.isBlank
  let (digits, rest) := digits rest.length [] rest
  let n := digits.foldr (fun d n => n * 10 + (d.toNat - 48)) 0
  if digits.isEmpty || 4294967296 ≤ n then none else some (n, rest.dropWhile Text.isBlank)
where
  /-- The leading digits, the last one first. -/
  digits : Nat → List Char → List Char → List Char × List Char
    | 0, taken, rest => (taken, rest)
    | n + 1, taken, rest =>
      match rest with
      | [] => (taken, [])
      | c :: more => if c.isDigit then digits n (c :: taken) (skipBlanks f more) else (taken, rest)

/-- The bounds of a counted repetition after its opening brace. -/
def bounds? (f : Flags) (rest : List Char) : Option (Nat × Option Nat × List Char) := do
  let (least, rest) ← count? f (skipBlanks f rest)
  match rest with
  | '\x7d' :: rest => return (least, some least, rest)
  | ',' :: more =>
    match skipBlanks f more with
    | '\x7d' :: rest => return (least, none, rest)
    | more =>
      let (most, rest) ← count? f more
      let rest ← Text.after? ['\x7d'] rest
      guard (least ≤ most)
      return (least, some most, rest)
  | _ => none

/-- The flags before a colon or a closing parenthesis, and which of the two follows. -/
def flags? (f : Flags) : (seen : List Char) → (value : Bool) → (dangling : Bool) → List Char →
    Option (Flags × Bool × Char × List Char)
  | _, _, _, [] => none
  | seen, value, dangling, c :: rest =>
    if c == ':' || c == ')' then
      if dangling then none else some (f, seen.isEmpty, c, rest)
    else if c == '-' then
      if value then flags? f ('-' :: seen) false true rest else none
    else if seen.contains c then none
    else do
      let f ← f.update? c value
      flags? f (c :: seen) value false rest

/-- Whether `c` may stand in the name of a group. -/
def isNameChar (first : Bool) (c : Char) : Bool :=
  c == '_' || CharSet.alphabetic.mem c ||
    (!first && (c == '.' || c == '[' || c == ']' || CharSet.numeric.mem c))

/-- The name of a group, up to its closing angle. -/
def groupName? (rest : List Char) : Option (String × List Char) := do
  let name := rest.takeWhile (· != '>')
  let rest ← Text.after? ['>'] (rest.dropWhile (· != '>'))
  match name with
  | [] => none
  | c :: more =>
    guard (isNameChar true c && more.all (isNameChar false))
    return (String.ofList name, rest)

/-! ## The reader -/

/-- An open group: its number if it captures, the flags to go back to, and the choices and the
sequence around it, in reverse. -/
structure OpenGroup where
  index : Option Nat
  flags : Flags
  choices : List Piece
  pieces : List Piece

/-- The state of the reader: the open groups, the flags in force, the finished choices and the
pieces of the current sequence in reverse, the number of groups and the names given. Setting
flags is an empty piece that cannot be repeated. -/
structure Reader where
  stack : List OpenGroup := []
  flags : Flags := {}
  choices : List Piece := []
  pieces : List Piece := []
  repeatable : Bool := false
  groups : Nat := 0
  names : List (String × Nat) := []

namespace Reader

def push (st : Reader) (p : Piece) : Reader :=
  { st with pieces := p :: st.pieces, repeatable := true }

/-- Repeats the last piece. -/
def repeatLast? (st : Reader) (least : Nat) (most : Option Nat) (lazy : Bool) : Option Reader :=
  match st.repeatable, st.pieces with
  | true, p :: before =>
    let greedy := lazy == st.flags.swapGreed
    some { st with pieces := p.repeated least most greedy :: before }
  | _, _ => none

/-- The choice between all sequences of the current group. -/
def current (st : Reader) : Piece := .choice (.sequence st.pieces :: st.choices)

def openGroup (st : Reader) (index : Option Nat) (inner : Flags) : Reader :=
  { st with
    stack := ⟨index, st.flags, st.choices, st.pieces⟩ :: st.stack
    flags := inner, choices := [], pieces := [], repeatable := false }

def closeGroup? (st : Reader) : Option Reader :=
  match st.stack with
  | [] => none
  | g :: stack =>
    some { st with
      stack, flags := g.flags, choices := g.choices
      pieces := st.current.grouped g.index :: g.pieces, repeatable := true }

/-- A parenthesis opens a group or sets flags. -/
def parenthesis? (st : Reader) (rest : List Char) : Option (Reader × List Char) :=
  let named (rest : List Char) : Option (Reader × List Char) := do
    let (name, rest) ← groupName? rest
    guard (st.names.all (·.1 != name))
    let n := st.groups + 1
    let st := { st with groups := n, names := (name, n) :: st.names }
    return (st.openGroup (some n) st.flags, rest)
  match skipBlanks st.flags rest with
  | '?' :: '=' :: _ | '?' :: '!' :: _ | '?' :: '<' :: '=' :: _ | '?' :: '<' :: '!' :: _ => none
  | '?' :: 'P' :: '<' :: rest => named rest
  | '?' :: '<' :: rest => named rest
  | '?' :: rest => do
    let (f, unchanged, closing, rest) ← flags? st.flags [] true false rest
    if closing == ')' then
      guard !unchanged
      return ({ st.push { form := .empty } with flags := f, repeatable := false }, rest)
    else return (st.openGroup none f, rest)
  | rest =>
    let n := st.groups + 1
    some ({ st with groups := n }.openGroup (some n) st.flags, rest)

/-- One step: a group boundary, a repetition, or one more piece. -/
def step? (st : Reader) : List Char → Option (Reader × List Char)
  | [] => none
  | c :: rest =>
    let f := st.flags
    match c with
    | '(' => st.parenthesis? rest
    | ')' => st.closeGroup?.map (·, rest)
    | '|' =>
      some ({ st with
        choices := .sequence st.pieces :: st.choices, pieces := [], repeatable := false }, rest)
    | '[' => (bracketed? f rest).map fun (s, rest) => (st.push ⟨.ofSet s.set, s.depth⟩, rest)
    | '?' =>
      let (lazy, rest) := reluctant rest
      (st.repeatLast? 0 (some 1) lazy).map (·, rest)
    | '*' =>
      let (lazy, rest) := reluctant rest
      (st.repeatLast? 0 none lazy).map (·, rest)
    | '+' =>
      let (lazy, rest) := reluctant rest
      (st.repeatLast? 1 none lazy).map (·, rest)
    | '\x7b' => do
      let (least, most, rest) ← bounds? f rest
      let (lazy, rest) := reluctant (skipBlanks f rest)
      let st ← st.repeatLast? least most lazy
      return (st, rest)
    | '.' => if f.unicode then some (st.push { form := .ofSet (dot f) }, rest) else none
    | '^' => some (st.push { form := .anchor (caret f) false }, rest)
    | '$' => some (st.push { form := .anchor (dollar f) false }, rest)
    | '\x5c' => do
      let (item, rest) ← escape? f rest
      return (st.push { form := formOf f item }, rest)
    | c => some (st.push { form := formOf f (.literal c) }, rest)

/-- Reads to the end. -/
def run? : (fuel : Nat) → Reader → List Char → Option Reader
  | 0, _, _ => none
  | fuel + 1, st, rest =>
    match skipBlanks st.flags rest with
    | [] => some st
    | rest => do
      let (st, rest) ← st.step? rest
      run? fuel st rest

end Reader

/-- The form that a text writes down, with the numbers of its named groups. -/
def form? (text : String) : Option (Form × List (String × Nat)) :=
  let cs := text.toList
  (Reader.run? (cs.length + 1) {} cs).bind fun st =>
    let p := st.current
    if !st.stack.isEmpty || p.depth > nestLimit then none else some (p.form, st.names)

/-- The pattern that a text writes down, with the numbers of its named groups. -/
def parse (text : String) : Except PatternError (Pattern × List (String × Nat)) :=
  match form? text with
  | none => .error .malformed
  | some (f, names) => if f.tooLarge then .error .tooLarge else .ok (f.pattern, names)

/-- The pattern that a text writes down. -/
def read (text : String) : Except PatternError Pattern := (parse text).map (·.1)

end Pattern
end DocExamples
