/-
# Expressions of arguments

What `expr` computes. Each argument is a number, a text or an operator; a text that looks like a
number counts as one where numbers are compared or added. The result is shown, and the status says
whether it is neither empty nor zero.
-/

import DocExamples.Shell.Regex
import DocExamples.Shell.Tool

namespace DocExamples
namespace Shell
namespace Expression

/-- Why an expression has no value. -/
inductive Fault where
  | missingAfter (arg : Bytes)
  | unexpected (arg : Bytes)
  | unclosed (arg : Bytes)
  | notANumber
  | divisionByZero
  | badPattern (fault : RegexFault)
deriving DecidableEq

def Fault.message : Fault → String
  | missingAfter arg => "syntax error: missing argument after '" ++ State.textOf arg ++ "'"
  | unexpected arg => "syntax error: unexpected argument '" ++ State.textOf arg ++ "'"
  | unclosed arg => "syntax error: expecting ')' after '" ++ State.textOf arg ++ "'"
  | notANumber => "non-integer argument"
  | divisionByZero => "division by zero"
  | badPattern fault => fault.message

/-- The number that a text is. -/
def integer? (cs : Bytes) : Option Int :=
  let (negative, ds) := match cs with
    | '-' :: ds => (true, ds)
    | ds => (false, ds)
  (Decimal.nat? ds).map fun n => if negative then -Int.ofNat n else Int.ofNat n

/-- Whether a value is empty or zero. -/
def isNull (cs : Bytes) : Bool :=
  cs.isEmpty || match cs with
    | '-' :: ds => !ds.isEmpty && ds.all (· == '0')
    | ds => ds.all (· == '0')

def ofInt (n : Int) : Bytes := (toString n).toList

def ofBool (b : Bool) : Bytes := if b then ['1'] else ['0']

/-- The first group of a match at the start of a text, or the length of the match if the pattern has
no groups. -/
def matchStart (text pattern : Bytes) : Except Fault Bytes :=
  match Regex.read { extended := false } pattern with
  | .error e => .error (.badPattern e)
  | .ok p =>
    let grouped := Text.occursIn ['\x5c', '('] pattern
    match Regex.longest (p.ends text.toArray { place := 0 }) with
    | none => .ok (if grouped then [] else ['0'])
    | some r =>
      if grouped then
        .ok (match r.capture? 1 with
          | some (a, b) => (text.drop a).take (b - a)
          | none => [])
      else .ok (State.decimal r.place)

/-- What an operator makes of two values. -/
def apply (operator : String) (a b : Bytes) : Except Fault Bytes :=
  let numbers (f : Int → Int → Except Fault Int) : Except Fault Bytes := do
    match integer? a, integer? b with
    | some x, some y => return ofInt (← f x y)
    | _, _ => throw .notANumber
  let compared (byNumber : Int → Int → Bool) (byText : String → String → Bool) :
      Except Fault Bytes :=
    .ok (ofBool (match integer? a, integer? b with
      | some x, some y => byNumber x y
      | _, _ => byText (String.ofList a) (String.ofList b)))
  match operator with
  | "|" => .ok (if !isNull a then a else if isNull b then ['0'] else b)
  | "&" => .ok (if isNull a || isNull b then ['0'] else a)
  | "=" | "==" => compared (· == ·) (· == ·)
  | "!=" => compared (· != ·) (· != ·)
  | "<" => compared (· < ·) (· < ·)
  | "<=" => compared (· ≤ ·) (· ≤ ·)
  | ">" => compared (· > ·) (· > ·)
  | ">=" => compared (· ≥ ·) (· ≥ ·)
  | "+" => numbers fun x y => .ok (x + y)
  | "-" => numbers fun x y => .ok (x - y)
  | "*" => numbers fun x y => .ok (x * y)
  | "/" => numbers fun x y => if y = 0 then .error .divisionByZero else .ok (x.tdiv y)
  | "%" => numbers fun x y => if y = 0 then .error .divisionByZero else .ok (x.tmod y)
  | _ => matchStart a b

/-- The operators between two expressions, from the loosest level to the tightest. -/
def levels : List (List String) :=
  [["|"], ["&"], ["<", "<=", "=", "==", "!=", ">=", ">"], ["+", "-"], ["*", "/", "%"], [":"]]

/-- A value, the last argument it used, and the arguments left. -/
abbrev Reading := Except Fault (Bytes × Bytes × List Bytes)

mutual

/-- Values joined by the operators of a level and of those after it. -/
def level : (fuel : Nat) → List (List String) → (last : Bytes) → List Bytes → Reading
  | 0, _, last, _ => .error (.missingAfter last)
  | fuel + 1, [], last, args => primary fuel last args
  | fuel + 1, operators :: tighter, last, args => do
    let (a, last, args) ← level fuel tighter last args
    joined fuel operators tighter a last args

/-- Further operands of a level after the first one. -/
def joined : (fuel : Nat) → List String → List (List String) → (value last : Bytes) →
    List Bytes → Reading
  | 0, _, _, a, last, args => .ok (a, last, args)
  | fuel + 1, operators, tighter, a, last, args =>
    match args with
    | o :: rest =>
      if operators.contains (State.textOf o) then do
        let (b, last, rest) ← level fuel tighter o rest
        joined fuel operators tighter (← apply (State.textOf o) a b) last rest
      else .ok (a, last, args)
    | [] => .ok (a, last, [])

/-- An argument, a function of texts, or an expression in parentheses. -/
def primary : (fuel : Nat) → (last : Bytes) → List Bytes → Reading
  | 0, last, _ => .error (.missingAfter last)
  | _ + 1, last, [] => .error (.missingAfter last)
  | fuel + 1, _, a :: rest =>
    match State.textOf a with
    | "(" => do
      let (v, last, rest) ← level fuel levels a rest
      match rest with
      | [')'] :: rest => return (v, [')'], rest)
      | [] => throw (.unclosed last)
      | other :: _ => throw (.unexpected other)
    | ")" => .error (.unexpected a)
    | "+" =>
      match rest with
      | b :: rest => .ok (b, b, rest)
      | [] => .error (.missingAfter a)
    | "length" => do
      let (v, last, rest) ← primary fuel a rest
      return (State.decimal v.length, last, rest)
    | "match" => do
      let (v, last, rest) ← primary fuel a rest
      let (p, last, rest) ← primary fuel last rest
      return (← matchStart v p, last, rest)
    | "index" => do
      let (v, last, rest) ← primary fuel a rest
      let (set, last, rest) ← primary fuel last rest
      let place := (v.idxOf? ((v.find? set.contains).getD '\x00')).elim 0 (· + 1)
      return (State.decimal (if v.any set.contains then place else 0), last, rest)
    | "substr" => do
      let (v, last, rest) ← primary fuel a rest
      let (start, last, rest) ← primary fuel last rest
      let (count, last, rest) ← primary fuel last rest
      let part := match integer? start, integer? count with
        | some i, some n => if i ≤ 0 || n ≤ 0 then [] else (v.drop (i.toNat - 1)).take n.toNat
        | _, _ => []
      return (part, last, rest)
    | _ => .ok (a, a, rest)

end

/-- The value of an expression. -/
def value (args : List Bytes) : Except Fault Bytes := do
  let (v, _, rest) ← level (8 * args.length + 16) levels [] args
  match rest with
  | [] => return v
  | a :: _ => throw (.unexpected a)

def run : Tool.Run := fun args s =>
  match if args.head? == some ['-', '-'] then args.tail else args with
  | [] => Tool.usage "expr" "missing operand" 2 s
  | args =>
    match value args with
    | .ok v => (s.print (v ++ ['\n'])).finish (if isNull v then 1 else 0)
    | .error e => s.complain ("expr: " ++ e.message) 2

end Expression
end Shell
end DocExamples
