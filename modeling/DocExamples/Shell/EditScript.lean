/-
# Editing scripts

What `sed` reads as its script: commands, each with the lines that it applies to. A message about a
script says how many of its characters have been read.
-/

import DocExamples.Shell.Regex
import DocExamples.Shell.Numeral
import DocExamples.Shell.State

namespace DocExamples
namespace Shell

/-- A line, or where a range of lines ends. -/
inductive Address where
  | number (n : Nat)
  | last
  /-- The lines that match; without a pattern the one used last counts. -/
  | matching (p : Option Pattern)
  /-- Every so many lines from a first one on. -/
  | every (first step : Nat)
  /-- So many lines after the start of a range. -/
  | after (n : Nat)
  /-- The next line whose number is a multiple. -/
  | multiple (n : Nat)

/-- How letters are written from some place on. -/
inductive Casing where
  | kept
  | upper
  | lower
deriving DecidableEq

/-- A part of what is put in place of a match. -/
inductive Filler where
  | text (cs : Bytes)
  /-- The text of a group, or of the whole match for zero. -/
  | group (index : Nat)
  | casing (c : Casing)
  /-- The case of the next letter only. -/
  | nextCasing (c : Casing)

structure Substitution where
  pattern : Option Pattern
  replacement : List Filler
  /-- The first match that is replaced, counted from one. -/
  which : Nat := 1
  /-- Whether those after it are replaced as well. -/
  all : Bool := false
  print : Bool := false
  target : Option Bytes := none

/-- When a jump to a label is taken. -/
inductive JumpRule where
  | always
  | replaced
  | notReplaced
deriving DecidableEq

inductive EditAction where
  | opens
  | closes
  | label (name : Bytes)
  /-- A jump to a label, or to the end of the script if its name is empty. -/
  | jump (rule : JumpRule) (name : Bytes)
  | substitute (s : Substitution)
  | replaceBytes (pairs : List (Char × Char))
  | print
  | printFirst
  | printNumber
  | printName
  | list
  | delete
  | deleteFirst
  | clear
  | next
  | appendNext
  | hold
  | appendHold
  | get
  | appendGet
  | exchange
  | quit (status : Nat) (silent : Bool)
  | append (text : Bytes)
  | insert (text : Bytes)
  | change (text : Bytes)
  | readFile (path : Bytes)
  | writeFile (path : Bytes)
  | writeFirst (path : Bytes)
  | nothing

/-- A command with the lines it applies to: one, or from one to another. -/
structure EditStep where
  start : Option Address := none
  stop : Option Address := none
  inverted : Bool := false
  action : EditAction

/-- What is wrong with a script, and how much of it was left then, if that matters. -/
structure EditFault where
  message : String
  left : Option Nat

namespace EditScript

/-- Reads from the rest of a script. -/
abbrev Reader := StateT Bytes (Except EditFault)

/-- What is wrong at the place that has been reached. -/
def fail {α : Type} (message : String) : Reader α := do
  throw ⟨message, some (← get).length⟩

def isBlank (c : Char) : Bool := c == ' ' || c == '\t'

def skipBlanks : Reader Unit := modify (·.dropWhile isBlank)

/-- The next character, if there is one. -/
def next? : Reader (Option Char) := do
  match ← get with
  | c :: rest => set rest; return some c
  | [] => return none

def digits : Reader (Option Nat) := do
  let ds := (← get).takeWhile Char.isDigit
  modify (·.drop ds.length)
  return if ds.isEmpty then none else some (Decimal.ofDigits ds)

/-! ## Texts between marks -/

/-- The length of a set in brackets, in which the mark has no meaning. -/
def bracketLength (cs : Bytes) : Nat :=
  let opening := match cs with
    | '[' :: '^' :: ']' :: _ => 3
    | '[' :: '^' :: _ | '[' :: ']' :: _ => 2
    | _ => 1
  let rec inside : (fuel : Nat) → Bytes → Nat
    | 0, _ | _, [] => 0
    | fuel + 1, '[' :: k :: rest =>
      if k == ':' || k == '.' || k == '=' then
        match Text.indexOf? [k, ']'] rest with
        | some i => 2 + i + 2 + inside fuel (rest.drop (i + 2))
        | none => 2 + inside fuel rest
      else 1 + inside fuel (k :: rest)
    | fuel + 1, c :: rest => if c == ']' then 1 else 1 + inside fuel rest
  opening + inside cs.length (cs.drop opening)

/-- The text up to a mark, which stands for itself after a backslash; none if the script or its line
ends first. In a pattern an `n` after a backslash is a line end, and sets are passed over. -/
def delimited (pattern : Bool) (mark : Char) : (fuel : Nat) → Bytes → Option Bytes × Bytes
  | 0, cs => (none, cs)
  | fuel + 1, cs =>
    let more (read rest : Bytes) : Option Bytes × Bytes :=
      let (found, rest) := delimited pattern mark fuel rest
      (found.map (read ++ ·), rest)
    match cs with
    | [] => (none, [])
    | '\x5c' :: c :: rest =>
      if c == mark then more (if !pattern && c == '&' then ['\x5c', c] else [c]) rest
      else if c == 'n' && pattern then more ['\n'] rest
      else more ['\x5c', c] rest
    | c :: rest =>
      if c == mark then (some [], rest)
      else if c == '\n' && pattern then (none, cs)
      else if c == '[' && pattern then
        let n := bracketLength cs
        more (cs.take n) (cs.drop n)
      else more [c] rest

/-- The text up to a mark. -/
def upTo (pattern : Bool) (mark : Char) (message : String) : Reader Bytes := do
  let cs ← get
  let (found, rest) := delimited pattern mark (cs.length + 1) cs
  set rest
  match found with
  | some text => return text
  | none => fail message

/-- The byte that an escape stands for in every text of a script, and what follows it. -/
def escape? (cs : Bytes) : Option (Char × Bytes) :=
  let coded (base digits : Nat) (isDigit : Char → Bool) (rest : Bytes) : Option (Char × Bytes) :=
    let ds := (rest.take digits).takeWhile isDigit
    if ds.isEmpty then none
    else some (Char.ofNat (Numeral.inBase base ds % 256), rest.drop ds.length)
  match cs with
  | 'a' :: rest => some ('\x07', rest)
  | 'f' :: rest => some ('\x0c', rest)
  | 'n' :: rest => some ('\n', rest)
  | 'r' :: rest => some ('\r', rest)
  | 't' :: rest => some ('\t', rest)
  | 'v' :: rest => some ('\x0b', rest)
  | 'x' :: rest => coded 16 2 Numeral.isHex rest
  | 'o' :: rest => coded 8 3 Numeral.isOctal rest
  | 'd' :: rest => coded 10 3 Char.isDigit rest
  | _ => none

/-- A pattern with the bytes that escapes stand for put in. -/
def plainPattern : (fuel : Nat) → Bytes → Bytes
  | 0, _ | _, [] => []
  | fuel + 1, '\x5c' :: rest =>
    match escape? rest, rest with
    | some (c, rest), _ =>
      (if ".*[]^$\\/".toList.contains c then ['\x5c', c] else [c]) ++ plainPattern fuel rest
    | none, c :: rest => '\x5c' :: c :: plainPattern fuel rest
    | none, [] => ['\x5c']
  | fuel + 1, c :: rest => c :: plainPattern fuel rest

/-- The pattern of a text, none if the text is empty. -/
def pattern (style : RegexStyle) (text : Bytes) : Reader (Option Pattern) := do
  if text.isEmpty then return none
  match Regex.read style (plainPattern text.length text) with
  | .ok p => return some p
  | .error e => fail e.message

/-! ## Addresses -/

/-- The flags of a pattern that is an address, and the pattern. -/
def matching (style : RegexStyle) (mark : Char) : Reader Address := do
  let text ← upTo true mark "unterminated address regex"
  let flags := (← get).takeWhile fun c => c == 'I' || c == 'M'
  modify (·.drop flags.length)
  return .matching (← pattern { style with foldCase := flags.contains 'I' } text)

def address? (style : RegexStyle) : Reader (Option Address) := do
  match ← get with
  | '$' :: rest => set rest; return some .last
  | '/' :: rest => set rest; return some (← matching style '/')
  | '\x5c' :: c :: rest => set rest; return some (← matching style c)
  | '+' :: rest => set rest; return some (.after ((← digits).getD 0))
  | '~' :: rest => set rest; return some (.multiple ((← digits).getD 0))
  | c :: _ =>
    if !c.isDigit then return none
    let first := (← digits).getD 0
    skipBlanks
    match ← get with
    | '~' :: rest => set rest; return some (.every first ((← digits).getD 0))
    | _ => return some (.number first)
  | [] => return none

/-- The lines that a command applies to. -/
def addresses (style : RegexStyle) : Reader (Option Address × Option Address) := do
  match ← get with
  | '+' :: _ | '~' :: _ => return (none, none)
  | _ =>
    let start ← address? style
    skipBlanks
    match start, ← get with
    | some _, ',' :: rest =>
      set (rest.dropWhile isBlank)
      let stop ← address? style
      if stop.isNone then
        let _ ← next?
        fail "unexpected \x60,'"
      skipBlanks
      return (start, stop)
    | _, _ => return (start, none)

/-! ## Commands -/

/-- The end of a command. -/
def finish : Reader Unit := do
  skipBlanks
  match ← get with
  | [] | '}' :: _ | '#' :: _ => return
  | c :: rest =>
    set rest
    if c != '\n' && c != ';' then fail "extra characters after command"

/-- The rest of a line. -/
def restOfLine : Reader Bytes := do
  let line := (← get).takeWhile (· != '\n')
  modify (·.drop line.length)
  return line

def fileName : Reader Bytes := do
  skipBlanks
  let name ← restOfLine
  if name.isEmpty then fail "missing filename in r/R/w/W commands"
  return name

def labelName : Reader Bytes := do
  skipBlanks
  let name := (← get).takeWhile fun c => !isBlank c && c != '\n' && c != ';' && c != '}'
  modify (·.drop name.length)
  finish
  return name

/-- The text of a command up to the end of its line, which may be continued after a backslash. -/
def textLines : (fuel : Nat) → Bytes → Bytes × Bytes
  | 0, cs => ([], cs)
  | _ + 1, [] => (['\n'], [])
  | fuel + 1, '\x5c' :: rest =>
    match escape? rest, rest with
    | some (c, rest), _ | none, c :: rest =>
      let (text, rest) := textLines fuel rest
      (c :: text, rest)
    | none, [] => ([], [])
  | fuel + 1, c :: rest =>
    if c == '\n' then (['\n'], rest)
    else
      let (text, rest) := textLines fuel rest
      (c :: text, rest)

/-- The text that a command shows. -/
def text : Reader Bytes := do
  skipBlanks
  match ← get with
  | [] => fail "expected \\ after \x60a', \x60c' or \x60i'"
  | '\x5c' :: rest =>
    match rest.dropWhile isBlank with
    | '\n' :: more => set more
    | _ => set rest
  | _ => pure ()
  let cs ← get
  if cs.isEmpty then return []
  let (text, rest) := textLines (cs.length + 1) cs
  set rest
  return text

/-- The parts of a replacement. -/
def fillers : (fuel : Nat) → Bytes → List Filler
  | 0, _ | _, [] => []
  | fuel + 1, '&' :: rest => .group 0 :: fillers fuel rest
  | fuel + 1, '\x5c' :: c :: rest =>
    match escape? (c :: rest) with
    | some (c, rest) => .text [c] :: fillers fuel rest
    | none =>
      (match c with
        | 'U' => .casing .upper
        | 'L' => .casing .lower
        | 'E' => .casing .kept
        | 'u' => .nextCasing .upper
        | 'l' => .nextCasing .lower
        | c => if c.isDigit then .group (c.toNat - 48) else .text [c]) :: fillers fuel rest
  | fuel + 1, c :: rest => .text [c] :: fillers fuel rest

/-- The greatest number of a group. -/
def lastGroup : Pattern → Nat
  | .empty | .chars _ | .anchor _ _ => 0
  | .seq p q | .alt p q => max (lastGroup p) (lastGroup q)
  | .times p _ _ _ => lastGroup p
  | .group i p => max i (lastGroup p)

/-- The flags behind a substitution, after those read, and whether letter case is folded. -/
def flags : (fuel : Nat) → (numbered folded : Bool) → Substitution →
    Reader (Substitution × Bool)
  | 0, _, folded, s => pure (s, folded)
  | fuel + 1, numbered, folded, s => do
    match ← get with
    | [] | '}' :: _ | '#' :: _ => return (s, folded)
    | c :: rest =>
      if c.isDigit then
        match ← digits with
        | some 0 => fail "number option to \x60s' command may not be zero"
        | n =>
          if numbered then fail "multiple number options to \x60s' command"
          flags fuel true folded { s with which := n.getD 1 }
      else
        set rest
        match c with
        | ';' | '\n' => return (s, folded)
        | 'g' =>
          if s.all then fail "multiple \x60g' options to \x60s' command"
          flags fuel numbered folded { s with all := true }
        | 'p' =>
          if s.print then fail "multiple \x60p' options to \x60s' command"
          flags fuel numbered folded { s with print := true }
        | 'i' | 'I' => flags fuel numbered true s
        | 'm' | 'M' => flags fuel numbered folded s
        | 'w' => return ({ s with target := some (← fileName) }, folded)
        | c =>
          if isBlank c then flags fuel numbered folded s
          else fail "unknown option to \x60s'"

def substitution (style : RegexStyle) : Reader Substitution := do
  let unfinished := "unterminated \x60s' command"
  match ← next? with
  | none => fail unfinished
  | some mark =>
    let text ← upTo true mark unfinished
    let replacement ← upTo false mark unfinished
    let parts := fillers (replacement.length + 1) replacement
    let plain : Substitution := { pattern := none, replacement := parts }
    let (s, folded) ← flags ((← get).length + 1) false false plain
    let p ← pattern { style with foldCase := folded } text
    let highest := parts.foldl (fun n f => match f with
      | .group i => max n i
      | _ => n) 0
    if p.any fun p => lastGroup p < highest then
      fail ("invalid reference \\" ++ toString highest ++ " on \x60s' command's RHS")
    return { s with pattern := p }

/-- The bytes of a set to be replaced. -/
def bytesOf : (fuel : Nat) → Bytes → Bytes
  | 0, _ | _, [] => []
  | fuel + 1, '\x5c' :: rest =>
    match escape? rest, rest with
    | some (c, rest), _ | none, c :: rest => c :: bytesOf fuel rest
    | none, [] => ['\x5c']
  | fuel + 1, c :: rest => c :: bytesOf fuel rest

def replacedBytes : Reader (List (Char × Char)) := do
  let unfinished := "unterminated \x60y' command"
  match ← next? with
  | none => fail unfinished
  | some mark =>
    let first ← upTo false mark unfinished
    let second ← upTo false mark unfinished
    let first := bytesOf (first.length + 1) first
    let second := bytesOf (second.length + 1) second
    if first.length != second.length then
      fail "strings for \x60y' command are different lengths"
    finish
    return first.zip second

/-- What a letter does, with what belongs to it. -/
def action (style : RegexStyle) (letter : Char) : Reader EditAction := do
  let simple (a : EditAction) : Reader EditAction := do
    finish
    return a
  match letter with
  | '{' => return .opens
  | '}' => simple .closes
  | 'b' => return .jump .always (← labelName)
  | 't' => return .jump .replaced (← labelName)
  | 'T' => return .jump .notReplaced (← labelName)
  | 's' => return .substitute (← substitution style)
  | 'y' => return .replaceBytes (← replacedBytes)
  | 'p' => simple .print
  | 'P' => simple .printFirst
  | '=' => simple .printNumber
  | 'F' => simple .printName
  | 'l' => do
    skipBlanks
    let _ ← digits
    simple .list
  | 'd' => simple .delete
  | 'D' => simple .deleteFirst
  | 'z' => simple .clear
  | 'n' => simple .next
  | 'N' => simple .appendNext
  | 'h' => simple .hold
  | 'H' => simple .appendHold
  | 'g' => simple .get
  | 'G' => simple .appendGet
  | 'x' => simple .exchange
  | 'q' | 'Q' => do
    skipBlanks
    let status := (← digits).getD 0
    simple (.quit status (letter == 'Q'))
  | 'a' => return .append (← text)
  | 'i' => return .insert (← text)
  | 'c' => return .change (← text)
  | 'r' => return .readFile (← fileName)
  | 'w' => return .writeFile (← fileName)
  | 'W' => return .writeFirst (← fileName)
  | 'v' => do
    let _ ← restOfLine
    return .nothing
  | c => fail ("unknown command: \x60" ++ String.singleton c ++ "'")

/-- Commands that apply to at most one line. -/
def takesOneLine : EditAction → Bool
  | .quit .. => true
  | _ => false

/-- One command, if there is one. -/
def step? (style : RegexStyle) (depth : Nat) : Reader (Option EditStep) := do
  modify (·.dropWhile fun c => isBlank c || c == '\n' || c == ';')
  if (← get).isEmpty then return none
  let (start, stop) ← addresses style
  let inverted := (← get).head? == some '!'
  if inverted then modify fun cs => (cs.drop 1).dropWhile isBlank
  match ← next? with
  | none => fail "missing command"
  | some letter =>
    if inverted && letter == '!' then fail "multiple \x60!'s"
    let misplaced := match start, stop with
      | some (.number 0), some (.matching _) => false
      | some (.number 0), _ => true
      | _, _ => false
    if misplaced then fail "invalid usage of line address 0"
    if letter == '#' then
      if start.isSome then fail "comments don't accept any addresses"
      let _ ← restOfLine
      return some { action := .nothing }
    if letter == ':' then
      if start.isSome then fail ": doesn't want any addresses"
      let name ← labelName
      if name.isEmpty then fail "\":\" lacks a label"
      return some { action := .label name }
    if letter == '}' && depth = 0 then fail "unexpected \x60\x7d'"
    if stop.isSome && (letter == 'q' || letter == 'Q') then fail "command only uses one address"
    return some { start, stop, inverted, action := ← action style letter }

/-- All commands of a script. -/
def steps (style : RegexStyle) : (fuel depth : Nat) → Reader (List EditStep)
  | 0, _ => pure []
  | fuel + 1, depth => do
    match ← step? style depth with
    | none =>
      if depth > 0 then throw ⟨"unmatched \x60\x7b'", none⟩
      return []
    | some s =>
      let depth := match s.action with
        | .opens => depth + 1
        | .closes => depth - 1
        | _ => depth
      return s :: (← steps style fuel depth)

/-- The place of a fault among parts that were joined by line ends: the number of the part, and how
many of its characters have been read. -/
def placeIn : (number : Nat) → (parts : List Bytes) → (place : Nat) → Nat × Nat
  | n, [], place => (n, place)
  | n, [_], place => (n, place)
  | n, p :: rest, place =>
    if place ≤ p.length then (n, place) else placeIn (n + 1) rest (place - p.length - 1)

/-- The commands of a script in parts, or a message and the status that goes with it. -/
def read (style : RegexStyle) (parts : List Bytes) : Except (String × Nat) (List EditStep) :=
  let script := ['\n'].intercalate parts
  match (steps style (script.length + 1) 0).run script with
  | .ok (found, _) =>
    let labels := found.filterMap fun s => match s.action with
      | .label name => some name
      | _ => none
    let missing := found.findSome? fun s => match s.action with
      | .jump _ name => if name.isEmpty || labels.contains name then none else some name
      | _ => none
    match missing with
    | some name => .error ("can't find label for jump to \x60" ++ State.textOf name ++ "'", 4)
    | none => .ok found
  | .error ⟨message, left⟩ =>
    let (number, place) := match left with
      | some n => placeIn 1 parts (script.length - n)
      | none => (1, 0)
    .error ("-e expression #" ++ toString number ++ ", char " ++ toString place ++ ": " ++ message,
      1)

end EditScript
end Shell
end DocExamples
