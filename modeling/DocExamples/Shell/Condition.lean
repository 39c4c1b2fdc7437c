/-
# Conditions

What `test` finds out about texts, numbers and files. A condition is a row of arguments: comparisons
and checks, joined by `-a` and `-o`, negated and in parentheses. An argument counts as an operator
only where operands for it follow. The readers stand on the last argument that they have used.
-/

import DocExamples.Shell.Printing

namespace DocExamples
namespace Shell
namespace Condition

/-- What an argument is good for. -/
inductive Role where
  | nothing
  | operand
  | check (letter : Char)
  | comparison (operator : String)
  | both
  | either
  | negation
  | opening
  | closing
deriving DecidableEq

def comparisons : List String :=
  ["=", "!=", "<", ">", "-eq", "-ne", "-ge", "-gt", "-le", "-lt", "-nt", "-ot", "-ef"]

/-- The role that the text of an argument has by itself. -/
def roleOf (arg : Bytes) : Role :=
  let s := State.textOf arg
  if comparisons.contains s then .comparison s
  else match arg with
    | ['!'] => .negation
    | ['('] => .opening
    | [')'] => .closing
    | ['-', 'a'] => .both
    | ['-', 'o'] => .either
    | ['-', c] => if "rwxefdcbpugkstznhOGLS".contains c then .check c else .operand
    | _ => .operand

def isComparison (r : Role) : Bool :=
  match r with
  | .comparison _ => true
  | _ => false

/-- The role of the argument at hand: a check needs something to look at, and an opening parenthesis
something behind it. -/
def role : List Bytes → Role
  | [] => .nothing
  | arg :: rest =>
    match roleOf arg, rest with
    | .check _, [] => .operand
    | .check c, [_] => .check c
    | .check c, b :: _ :: _ => if isComparison (roleOf b) then .operand else .check c
    | .opening, [] => .operand
    | r, _ => r

/-- The number that an operand is. -/
def number (cs : Bytes) : Except String Int :=
  let text := cs.dropWhile Numeral.isSpace
  let (negative, ds) := Numeral.sign text
  let digits := ds.takeWhile Char.isDigit
  if digits.isEmpty || !(ds.drop digits.length).all Numeral.isSpace then
    .error ("Illegal number: " ++ State.textOf cs)
  else
    let n := Int.ofNat (Decimal.ofDigits digits)
    .ok (if negative then -n else n)

/-- Whether a check holds of an argument. -/
def check (s : State) (letter : Char) (arg : Bytes) : Except String Bool :=
  let path := State.textOf arg
  match letter with
  | 'n' => .ok (!arg.isEmpty)
  | 'z' => .ok arg.isEmpty
  | 't' => (number arg).map fun _ => false
  | 'e' | 'r' | 'w' | 'O' | 'G' => .ok (s.files.contains path || path == "/dev/null")
  | 'c' => .ok (path == "/dev/null")
  | 'f' => .ok (s.files.isFile path)
  | 'd' => .ok (s.files.isDirectory path)
  | 's' => .ok (s.files.isDirectory path || (s.files.bytes? path).any (!·.isEmpty))
  | 'x' =>
    .ok (match s.files.node? path with
      | some (.file _ executable) => executable
      | some .directory => true
      | none => false)
  | _ => .ok false

/-- Whether a comparison holds. Of two files none is newer. -/
def compare (s : State) (operator : String) (a b : Bytes) : Except String Bool := do
  let numbers (f : Int → Int → Bool) : Except String Bool := do
    return f (← number a) (← number b)
  match operator with
  | "=" => return a == b
  | "!=" => return a != b
  | "<" => return String.ofList a < String.ofList b
  | ">" => return String.ofList b < String.ofList a
  | "-eq" => numbers (· == ·)
  | "-ne" => numbers (· != ·)
  | "-lt" => numbers (· < ·)
  | "-le" => numbers (· ≤ ·)
  | "-gt" => numbers (· > ·)
  | "-ge" => numbers (· ≥ ·)
  | "-ef" =>
    let place := s.files.place? (State.textOf a)
    return place == s.files.place? (State.textOf b) && s.files.contains (State.textOf a)
  | _ => return false

/-- Whether a condition holds, and the arguments from the last one used on. -/
abbrev Reading := Except String (Bool × List Bytes)

section

variable (s : State)

mutual

/-- Conditions of which one has to hold. -/
def anyOf : (fuel : Nat) → (before : Bool) → List Bytes → Reading
  | 0, before, args => .ok (before, args)
  | fuel + 1, before, args => do
    let (b, args) ← allOf fuel true args
    if role args.tail == .either then anyOf fuel (before || b) (args.drop 2)
    else return (before || b, args)

/-- Conditions all of which have to hold. -/
def allOf : (fuel : Nat) → (before : Bool) → List Bytes → Reading
  | 0, before, args => .ok (before, args)
  | fuel + 1, before, args => do
    let (b, args) ← negated fuel args
    if role args.tail == .both then allOf fuel (before && b) (args.drop 2)
    else return (before && b, args)

/-- A condition that may be negated. -/
def negated : (fuel : Nat) → List Bytes → Reading
  | 0, args => .ok (false, args)
  | fuel + 1, args => do
    if role args == .negation then
      if args.tail.isEmpty then return (true, args)
      else
        let (b, args) ← negated fuel args.tail
        return (!b, args)
    else single fuel args

/-- A comparison, a check, a condition in parentheses, or a text that must not be empty. -/
def single : (fuel : Nat) → List Bytes → Reading
  | 0, args => .ok (false, args)
  | fuel + 1, args =>
    match role args, args with
    | .nothing, _ | _, [] => .ok (false, args)
    | .opening, _ :: args => do
      if role args == .closing then return (false, args)
      let (b, args) ← anyOf fuel false args
      if role args.tail == .closing then return (b, args.tail)
      else throw "closing paren expected"
    | .check c, _ :: args =>
      match args with
      | a :: _ => do return (← check s c a, args)
      | [] => .error ("-" ++ String.singleton c ++ ": argument expected")
    | _, a :: args =>
      match role args, args.tail with
      | .comparison o, b :: _ => do return (← compare s o a b, args.tail)
      | .comparison o, [] => .error (o ++ ": argument expected")
      | _, _ => .ok (!a.isEmpty, a :: args)

end

/-- Whether the arguments are a condition that holds, or what is wrong with them. Three of them are
a comparison if they can be one; of three or four an exclamation mark in front negates the
others. -/
def holds : (fuel : Nat) → (negated : Bool) → List Bytes → Except String Bool
  | 0, negated, _ => .ok negated
  | fuel + 1, negated, args => do
    let few := args.length = 3 || args.length = 4
    match args with
    | [] => return negated
    | [a, o, b] =>
      match roleOf o with
      | .comparison operator => return (← compare s operator a b) != negated
      | _ => pure ()
    | _ => pure ()
    let enclosed := few && args.head? == some ['('] && args.getLast? == some [')']
    if few && !enclosed && args.head? == some ['!'] then holds fuel true args.tail
    else
      let inner := if enclosed then (args.drop 1).dropLast else args
      let (b, rest) ← anyOf s (8 * inner.length + 8) false inner
      match rest with
      | a :: _ :: _ =>
        throw (if a.isEmpty then "unexpected operator"
          else State.textOf a ++ ": unexpected operator")
      | _ => return b != negated

end

end Condition
end Shell
end DocExamples
