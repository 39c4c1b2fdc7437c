/-
# Arithmetic of the shell

Expressions over 64-bit numbers, which wrap around. A comparison is one if it holds and zero if it
does not, and a name stands for the number in its variable, zero if it has none. The operators
stand in a table of levels: those of a later level bind more tightly, and those of one level group
to the left.
-/

import DocExamples.Shell.Printing

namespace DocExamples
namespace Shell

/-- An arithmetic expression. -/
inductive Arithmetic where
  | number (n : Int64)
  | name (v : Bytes)
  | unary (operator : Char) (a : Arithmetic)
  | binary (operator : String) (a b : Arithmetic)
  | choice (test a b : Arithmetic)
  /-- A variable takes the value of an expression. -/
  | assign (v : Bytes) (a : Arithmetic)
deriving Repr, Inhabited

/-- Why an expression has no value. -/
inductive ArithmeticError where
  /-- Something else should stand in its text. -/
  | expecting (what : String)
  | divisionByZero
  /-- The value of a variable is not a number. -/
  | illegalNumber (text : Bytes)
deriving DecidableEq, Repr

namespace Arithmetic

/-! ## Reading -/

/-- The operators between two expressions, from the loosest level to the tightest. -/
def levels : List (List String) :=
  [["||"], ["&&"], ["|"], ["^"], ["&"], ["==", "!="], ["<=", ">=", "<", ">"], ["<<", ">>"],
    ["+", "-"], ["*", "/", "%"]]

/-- The operators that also assign: what they compute stands before the equals sign. -/
def assigning : List String := ["", "<<", ">>", "+", "-", "*", "/", "%", "&", "|", "^"]

def skip (cs : Bytes) : Bytes := cs.dropWhile fun c => c == ' ' || c == '\t' || c == '\n'

/-- The operator at hand, the longest one there is. -/
def operator? (cs : Bytes) : Option (String × Bytes) :=
  let cs := skip cs
  let known := levels.flatten ++ assigning.map (· ++ "=")
  let two := String.ofList (cs.take 2)
  let one := String.ofList (cs.take 1)
  if assigning.any fun o => o.length = 2 && (o ++ "=").toList == cs.take 3 then
    some (String.ofList (cs.take 3), cs.drop 3)
  else if known.contains two then some (two, cs.drop 2)
  else if known.contains one then some (one, cs.drop 1)
  else none

/-- The number at hand, the greatest there is in place of a greater one. -/
def number? (cs : Bytes) : Option (Int64 × Bytes) :=
  (Numeral.natural? cs).map fun (n, rest) => (Int64.ofInt (Numeral.clamp (Int.ofNat n)), rest)

/-- The name at hand, and what follows it. -/
def name? (cs : Bytes) : Option (Bytes × Bytes) :=
  let word := cs.takeWhile fun c => c.isAlphanum || c == '_'
  match word with
  | [] => none
  | c :: _ => if c.isDigit then none else some (word, cs.drop word.length)

/-- An expression that is read, and what follows it. -/
abbrev Reading := Except ArithmeticError (Arithmetic × Bytes)

mutual

/-- An assignment or a choice between two expressions. -/
def whole : (fuel : Nat) → Bytes → Reading
  | 0, _ => .error (.expecting "EOF")
  | fuel + 1, cs =>
    let assigned := do
      let (v, rest) ← name? (skip cs)
      let (o, rest) ← operator? rest
      let before := (o.toList.dropLast : List Char)
      if o.toList.getLast? == some '=' && assigning.contains (String.ofList before) then
        some (v, String.ofList before, rest)
      else none
    match assigned with
    | some (v, o, rest) => do
      let (a, rest) ← whole fuel rest
      return (.assign v (if o.isEmpty then a else .binary o (.name v) a), rest)
    | none => decided fuel cs

/-- An expression, which may decide between two others. -/
def decided : (fuel : Nat) → Bytes → Reading
  | 0, _ => .error (.expecting "EOF")
  | fuel + 1, cs => do
    let (a, rest) ← level fuel levels cs
    match skip rest with
    | '?' :: rest =>
      let (b, rest) ← whole fuel rest
      match skip rest with
      | ':' :: rest =>
        let (c, rest) ← decided fuel rest
        return (.choice a b c, rest)
      | _ => .error (.expecting "':'")
    | rest => return (a, rest)

/-- Expressions joined by the operators of a level and of those after it. -/
def level : (fuel : Nat) → List (List String) → Bytes → Reading
  | 0, _, _ => .error (.expecting "EOF")
  | fuel + 1, [], cs => primary fuel (skip cs)
  | fuel + 1, operators :: tighter, cs => do
    let (a, rest) ← level fuel tighter cs
    joined fuel operators tighter a rest

/-- Further operands of a level after the first one. -/
def joined : (fuel : Nat) → List String → List (List String) → Arithmetic → Bytes → Reading
  | 0, _, _, _, _ => .error (.expecting "EOF")
  | fuel + 1, operators, tighter, a, cs =>
    match operator? cs with
    | some (o, rest) =>
      if operators.contains o then do
        let (b, rest) ← level fuel tighter rest
        joined fuel operators tighter (.binary o a b) rest
      else .ok (a, cs)
    | none => .ok (a, cs)

/-- A number, a name, an expression in parentheses, or one after an operator. -/
def primary : (fuel : Nat) → Bytes → Reading
  | 0, _ => .error (.expecting "EOF")
  | fuel + 1, cs =>
    match cs with
    | '(' :: rest => do
      let (a, rest) ← whole fuel rest
      match skip rest with
      | ')' :: rest => return (a, rest)
      | _ => .error (.expecting "')'")
    | c :: rest =>
      if ['-', '+', '!', '~'].contains c then do
        let (a, rest) ← primary fuel (skip rest)
        return (.unary c a, rest)
      else match number? cs, name? cs with
        | some (n, rest), _ => .ok (.number n, rest)
        | none, some (v, rest) => .ok (.name v, rest)
        | none, none => .error (.expecting "primary")
    | [] => .error (.expecting "primary")

end

/-- The expression that a text writes down. -/
def read (cs : Bytes) : Except ArithmeticError Arithmetic := do
  let (a, rest) ← whole (16 * cs.length + 16) cs
  if (skip rest).isEmpty then return a else .error (.expecting "EOF")

/-! ## Values -/

def ofBool (b : Bool) : Int64 := if b then 1 else 0

def applyUnary (operator : Char) (n : Int64) : Int64 :=
  match operator with
  | '-' => -n
  | '!' => ofBool (n == 0)
  | '~' => n.complement
  | _ => n

/-- The value of an operator that looks at both operands. -/
def applyBinary (operator : String) (a b : Int64) : Except ArithmeticError Int64 :=
  match operator with
  | "|" => .ok (a ||| b)
  | "^" => .ok (a ^^^ b)
  | "&" => .ok (a &&& b)
  | "==" => .ok (ofBool (a == b))
  | "!=" => .ok (ofBool (a != b))
  | "<=" => .ok (ofBool (a ≤ b))
  | ">=" => .ok (ofBool (b ≤ a))
  | "<" => .ok (ofBool (a < b))
  | ">" => .ok (ofBool (b < a))
  | "<<" => .ok (a <<< b)
  | ">>" => .ok (a >>> b)
  | "+" => .ok (a + b)
  | "-" => .ok (a - b)
  | "*" => .ok (a * b)
  | "/" => if b == 0 then .error .divisionByZero else .ok (a / b)
  | "%" => if b == 0 then .error .divisionByZero else .ok (a % b)
  | _ => .error (.expecting "EOF")

def ofInt64 (n : Int64) : Bytes := (toString n.toInt).toList

/-- The number that the value of a variable writes down. Nothing is zero. -/
def ofVariable (value : Option Bytes) : Except ArithmeticError Int64 :=
  let text := value.getD []
  match Numeral.whole? text with
  | some (n, rest) =>
    if rest.all Numeral.isSpace && Numeral.clamp n == n then .ok (Int64.ofInt n)
    else .error (.illegalNumber text)
  | none => if text.all Numeral.isSpace then .ok 0 else .error (.illegalNumber text)

/-- The value of an expression, and the state after its assignments. -/
def evaluate (s : State) : Arithmetic → Except ArithmeticError (Int64 × State)
  | .number n => .ok (n, s)
  | .name v => (ofVariable (s.value? v)).map (·, s)
  | .unary o a => do
    let (x, s) ← evaluate s a
    return (applyUnary o x, s)
  | .binary o a b => do
    let (x, s) ← evaluate s a
    if o == "&&" && x == 0 then return (0, s)
    else if o == "||" && x != 0 then return (1, s)
    else
      let (y, s) ← evaluate s b
      if o == "&&" || o == "||" then return (ofBool (y != 0), s)
      else return (← applyBinary o x y, s)
  | .choice test a b => do
    let (x, s) ← evaluate s test
    if x == 0 then evaluate s b else evaluate s a
  | .assign v a => do
    let (x, s) ← evaluate s a
    return (x, s.setVariable v (ofInt64 x))

/-- The value of a text, and the state after it. -/
def valueOf (s : State) (text : Bytes) : Except ArithmeticError (Int64 × State) := do
  evaluate s (← read text)

end Arithmetic

def ArithmeticError.message (text : Bytes) : ArithmeticError → String
  | expecting what =>
    "arithmetic expression: expecting " ++ what ++ ": \"" ++ State.textOf text ++ "\""
  | divisionByZero =>
    "arithmetic expression: division by zero: \"" ++ State.textOf text ++ "\""
  | illegalNumber value => "Illegal number: " ++ State.textOf value

end Shell
end DocExamples
