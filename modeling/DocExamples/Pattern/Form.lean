/-
# Normal forms of patterns

A form is a pattern in which rows hold no rows, no empty forms and no two texts side by side,
choices hold no choices, and a choice between single characters is a set. What no repetition can
change is repeated at most once. The size of a pattern is measured on its form.
-/

import DocExamples.Pattern.Basic
import DocExamples.Text.Utf8
import DocExamples.Unicode.PropertyName

namespace DocExamples
namespace Pattern

/-- Normal forms. -/
inductive Form where
  | empty
  | text (cs : List Char)
  | chars (s : CharSet)
  /-- An anchor, with word characters among the first 128 code points only if `ascii`. -/
  | anchor (a : Anchor) (ascii : Bool)
  | times (f : Form) (least : Nat) (most : Option Nat) (greedy : Bool)
  | group (index : Nat) (f : Form)
  | row (fs : List Form)
  | choice (fs : List Form)
deriving BEq, Inhabited

namespace Form

/-! ## What a form matches -/

/-- The fewest bytes of a character of the set. -/
def leastWidth? (s : CharSet) : Option Nat :=
  s.runs.head?.map fun (lo, _) => Text.charWidth (Char.ofNat lo)

/-- The most bytes of a character of the set. -/
def mostWidth? (s : CharSet) : Option Nat :=
  s.runs.getLast?.map fun (_, hi) => Text.charWidth (Char.ofNat hi)

mutual

/-- The fewest bytes of a match, none if there is a set without characters. -/
def minWidth? : Form → Option Nat
  | .empty | .anchor _ _ => some 0
  | .text cs => some (Text.width cs)
  | .chars s => leastWidth? s
  | .times f least _ _ => (minWidth? f).map (· * least)
  | .group _ f => minWidth? f
  | .row fs => (minWidths? fs).map (·.foldr (· + ·) 0)
  | .choice fs => do (← minWidths? fs).min?

def minWidths? : List Form → Option (List Nat)
  | [] => some []
  | f :: fs => do return (← minWidth? f) :: (← minWidths? fs)

end

mutual

/-- The most bytes of a match, none if there is no bound or a set without characters. -/
def maxWidth? : Form → Option Nat
  | .empty | .anchor _ _ => some 0
  | .text cs => some (Text.width cs)
  | .chars s => mostWidth? s
  | .times f _ most _ => do return (← maxWidth? f) * (← most)
  | .group _ f => maxWidth? f
  | .row fs => (maxWidths? fs).map (·.foldr (· + ·) 0)
  | .choice fs => do (← maxWidths? fs).max?

def maxWidths? : List Form → Option (List Nat)
  | [] => some []
  | f :: fs => do return (← maxWidth? f) :: (← maxWidths? fs)

end

/-- Whether the form matches nothing but places between characters. -/
def isPlace (f : Form) : Bool := f.maxWidth? == some 0

mutual

/-- Whether every match begins with the anchor. -/
def beginsWith (a : Anchor) : Form → Bool
  | .anchor b _ => a == b
  | .times f least _ _ => 0 < least && beginsWith a f
  | .group _ f => beginsWith a f
  | .row fs => rowBeginsWith a fs
  | .choice fs => allBeginWith a fs
  | .empty | .text _ | .chars _ => false

def rowBeginsWith (a : Anchor) : List Form → Bool
  | [] => false
  | f :: fs => beginsWith a f || (f.isPlace && rowBeginsWith a fs)

def allBeginWith (a : Anchor) : List Form → Bool
  | [] => true
  | f :: fs => beginsWith a f && allBeginWith a fs

end

mutual

/-- Whether every match ends with the anchor. -/
def endsWith (a : Anchor) : Form → Bool
  | .anchor b _ => a == b
  | .times f least _ _ => 0 < least && endsWith a f
  | .group _ f => endsWith a f
  | .row fs => rowEndsWith a fs
  | .choice fs => allEndWith a fs
  | .empty | .text _ | .chars _ => false

def rowEndsWith (a : Anchor) : List Form → Bool
  | [] => false
  | f :: fs => rowEndsWith a fs || (fs.all isPlace && endsWith a f)

def allEndWith (a : Anchor) : List Form → Bool
  | [] => true
  | f :: fs => endsWith a f && allEndWith a fs

end

/-! ## Building forms -/

/-- One character of a set. -/
def ofSet (s : CharSet) : Form :=
  match s.runs with
  | [(lo, hi)] => if lo = hi then .text [Char.ofNat lo] else .chars s
  | _ => .chars s

/-- Repetition. What matches only places need not be repeated more than once. -/
def repeated (f : Form) (least : Nat) (most : Option Nat) (greedy : Bool) : Form :=
  let (least, most) :=
    if f.isPlace then (min least 1, some ((most.map (min · 1)).getD 1)) else (least, most)
  match least, most with
  | 0, some 0 => .empty
  | 1, some 1 => f
  | least, most => .times f least most greedy

/-- The parts of a row. -/
def parts : Form → List Form
  | .row fs => fs
  | .empty => []
  | f => [f]

/-- Puts texts side by side together. -/
def joinTexts : List Form → List Form
  | [] => []
  | .text a :: fs =>
    match joinTexts fs with
    | .text b :: gs => .text (a ++ b) :: gs
    | gs => .text a :: gs
  | f :: fs => f :: joinTexts fs

/-- Forms one after another. -/
def sequence (fs : List Form) : Form :=
  match joinTexts (fs.flatMap parts) with
  | [] => .empty
  | [f] => f
  | gs => .row gs

/-- The alternatives of a choice. -/
def alternatives : Form → List Form
  | .choice fs => fs
  | f => [f]

/-- The set of a text of one character. -/
def single? : Form → Option CharSet
  | .text [c] => some (.single c)
  | _ => none

def set? : Form → Option CharSet
  | .chars s => some s
  | _ => none

def row? : Form → Option (List Form)
  | .row fs => some fs
  | _ => none

/-- The union of the sets that all forms stand for. -/
def unionOf? (read : Form → Option CharSet) (fs : List Form) : Option CharSet :=
  (fs.mapM read).map (·.foldl .union .empty)

/-- A choice after its alternatives are known: a set where it can be one, else what `otherwise`
makes of the alternatives. -/
def chooseBy (otherwise : List Form → Form) (fs : List Form) : Form :=
  match fs.flatMap alternatives with
  | [] => .chars .empty
  | [f] => f
  | gs =>
    match (unionOf? single? gs).or (unionOf? set? gs) with
    | some s => ofSet s
    | none => otherwise gs

/-- The forms at the front of both rows. -/
def commonFront : List Form → List Form → List Form
  | f :: fs, g :: gs => if f == g then f :: commonFront fs gs else []
  | _, _ => []

/-- A choice with the common front of its rows in front of it, if all alternatives are rows and
have a common front. -/
def factored (gs : List Form) : Form :=
  match gs.mapM row? with
  | some (r :: rs) =>
    match rs.foldl commonFront r with
    | [] => .choice gs
    | front =>
      let rests := (r :: rs).map fun fs => sequence (fs.drop front.length)
      sequence (front ++ [chooseBy .choice rests])
  | _ => .choice gs

/-- The first of several forms that lets the rest match. -/
def choose (fs : List Form) : Form := chooseBy factored fs

/-! ## Matching -/

/-- The pattern of a text. -/
def ofText : List Char → Pattern
  | [] => .empty
  | [c] => .chars (.single c)
  | c :: cs => .seq (.chars (.single c)) (ofText cs)

mutual

/-- The pattern that a form is the normal form of. -/
def pattern : Form → Pattern
  | .empty => .empty
  | .text cs => ofText cs
  | .chars s => .chars s
  | .anchor a ascii => .anchor a (if ascii then .asciiWord else .word)
  | .times f least most greedy => .times (pattern f) least most greedy
  | .group index f => .group index (pattern f)
  | .row fs => rowPattern fs
  | .choice fs => choicePattern fs

def rowPattern : List Form → Pattern
  | [] => .empty
  | [f] => pattern f
  | f :: fs => .seq (pattern f) (rowPattern fs)

def choicePattern : List Form → Pattern
  | [] => .chars .empty
  | [f] => pattern f
  | f :: fs => .alt (pattern f) (choicePattern fs)

end

end Form
end Pattern
end DocExamples
