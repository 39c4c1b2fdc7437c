/-
# Batches

How `xargs` makes commands of its input: the items of the input are added to a command, as many at
a time as asked for, or each line is put in for a mark.
-/

import DocExamples.Shell.Tool

namespace DocExamples
namespace Shell

structure Batch where
  command : List Bytes := ["echo".toList]
  /-- The greatest number of items of one command. -/
  size : Option Nat := none
  /-- The greatest number of lines whose items go to one command. -/
  lines : Option Nat := none
  /-- What is replaced by a line. -/
  mark : Option Bytes := none
  /-- What ends an item in place of blanks. -/
  separator : Option Char := none
  /-- Whether no command runs if there are no items. -/
  skipsEmpty : Bool := false
  traced : Bool := false

namespace Batch

/-- The batch that arguments ask for: options, and then the command. -/
def read (args : List Bytes) : Except String Batch := do
  let o ← Tool.Options.read "xargs" "rt0xo" "nLIdPsEa" args
  let number (letter : Char) : Option Nat := (o.value? letter).bind Decimal.nat?
  return {
    command := if o.operands.isEmpty then ["echo".toList] else o.operands
    size := number 'n'
    lines := number 'L'
    mark := o.value? 'I'
    separator := if o.has '0' then some '\x00'
      else (o.value? 'd').bind fun d => (Printing.unescaped (d.length + 1) d).1.head?
    skipsEmpty := o.has 'r'
    traced := o.has 't' }

/-- The items of a text between blanks, which have no meaning in quotation marks and after a
backslash. The item at hand stands in reverse, if there is one. -/
def items : (mark : Option Char) → (current : Option Bytes) → Bytes → List Bytes
  | _, current, [] => (current.map List.reverse).toList
  | some q, current, c :: rest =>
    if c == q then items none (some (current.getD [])) rest
    else items (some q) (some (c :: current.getD [])) rest
  | none, current, '\x5c' :: c :: rest => items none (some (c :: current.getD [])) rest
  | none, current, c :: rest =>
    if c == ' ' || c == '\t' || c == '\n' then
      (current.map List.reverse).toList ++ items none none rest
    else if c == '\'' || c == '\x22' then items (some c) (some (current.getD [])) rest
    else items none (some (c :: current.getD [])) rest

/-- Groups of so many. -/
def groups {α : Type} (size : Nat) : (fuel : Nat) → List α → List (List α)
  | 0, _ => []
  | _ + 1, [] => []
  | fuel + 1, xs => xs.take size :: groups size fuel (xs.drop size)

/-- A text with each occurrence of a mark replaced. -/
def replaced (mark value : Bytes) : (fuel : Nat) → Bytes → Bytes
  | 0, cs => cs
  | fuel + 1, cs =>
    match if mark.isEmpty then none else Text.indexOf? mark cs with
    | some i => cs.take i ++ value ++ replaced mark value fuel (cs.drop (i + mark.length))
    | none => cs

/-- The commands for a text. -/
def commands (b : Batch) (text : Bytes) : List (List Bytes) :=
  match b.mark with
  | some mark =>
    let lines := ((linesOf text).1.map fun l => l.dropWhile fun c => c == ' ' || c == '\t').filter
      (!·.isEmpty)
    lines.map fun l => b.command.map fun cs => replaced mark l (cs.length + 1) cs
  | none =>
    let separated (text : Bytes) : List Bytes :=
      match b.separator with
      | some c =>
        let parts := Text.splitOn c text
        if parts.getLast? == some [] then parts.dropLast else parts
      | none => items none none text
    let blocks := match b.lines with
      | some n =>
        let lines := (linesOf text).1.filter fun l => !(items none none l).isEmpty
        (groups (max n 1) (lines.length + 1) lines).map withEnds
      | none => [text]
    let calls := blocks.flatMap fun block =>
      let found := separated block
      groups (max (b.size.getD found.length) 1) (found.length + 1) found
    if calls.isEmpty then if b.skipsEmpty then [] else [b.command]
    else calls.map (b.command ++ ·)

/-- The status after one more command, and whether no other one runs. -/
def status (before command : Nat) : Nat × Bool :=
  if command = 0 then (before, false)
  else if command = 255 then (124, true)
  else if command ≥ 126 then (command, true)
  else (123, false)

end Batch
end Shell
end DocExamples
