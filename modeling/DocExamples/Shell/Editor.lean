/-
# Editing lines

How `sed` runs a script on each line of its input: commands change the line at hand and another text
that is kept aside, show lines, or take further ones.
-/

import DocExamples.Shell.EditScript
import DocExamples.Shell.Tool

namespace DocExamples
namespace Shell

/-- What is shown after the line at hand. -/
inductive Queued where
  | text (cs : Bytes)
  | file (path : Bytes)

structure Editor where
  /-- The line at hand, and whether it has its line end. -/
  line : Bytes := []
  complete : Bool := true
  held : Bytes := []
  heldComplete : Bool := true
  number : Nat := 0
  /-- The lines that follow, each with its line end or without. -/
  rest : List (Bytes × Bool)
  /-- Where the range of a command that is under way ends, by the place of the command: at a line,
  or at one that the address tells. -/
  ranges : List (Nat × Option Nat) := []
  /-- Whether a replacement was made since the last line was taken or a jump asked for it. -/
  replaced : Bool := false
  /-- The pattern used last. -/
  pattern : Option Pattern := none
  queue : List Queued := []
  out : Bytes := []
  /-- Whether the last line shown has no line end yet. -/
  pending : Bool := false
  /-- What is written to files, the latest last. -/
  written : List (Bytes × Bytes) := []
  /-- The name of the input. -/
  name : Bytes := ['-']
  fault : Option String := none

namespace Editor

/-- What a line leads to when the script is through with it. -/
inductive Outcome where
  /-- The line is shown and the next one taken. -/
  | done
  | dropped
  /-- The script starts again with what is left of the line. -/
  | again
  | quit (status : Nat) (shown : Bool)

/-! ## Output -/

/-- Shows a text, with a line end or without one. -/
def showLine (e : Editor) (cs : Bytes) (complete : Bool) : Editor :=
  { e with
    out := e.out ++ (if e.pending then ['\n'] else []) ++ cs ++ (if complete then ['\n'] else [])
    pending := !complete }

/-- Shows lines that have their ends. -/
def showAll (e : Editor) (cs : Bytes) : Editor :=
  if cs.isEmpty then e
  else { e with out := e.out ++ (if e.pending then ['\n'] else []) ++ cs, pending := false }

/-- Ends the last line shown, if it has no line end yet. -/
def closeLine (e : Editor) : Editor :=
  if e.pending then { e with out := e.out ++ ['\n'], pending := false } else e

/-- Writes a line to a file, which may be the output. -/
def writeTo (e : Editor) (path cs : Bytes) : Editor :=
  if path == "/dev/stdout".toList then e.showLine cs e.complete
  else { e with written := e.written ++ [(path, cs ++ ['\n'])] }

/-- Shows what is to come after the line. -/
def showQueue (e : Editor) (readFile : Bytes → Option Bytes) : Editor :=
  let e := e.queue.foldl (fun (e : Editor) q =>
    match q with
    | .text cs => e.showAll cs
    | .file path => e.showAll ((readFile path).getD [])) e
  { e with queue := [] }

/-- Takes the next line, if there is one, in place of the line at hand or after it. -/
def take? (e : Editor) (readFile : Bytes → Option Bytes) (added : Bool) : Option Editor :=
  match e.rest with
  | [] => none
  | (l, complete) :: rest =>
    let e := e.showQueue readFile
    some { e with
      line := if added then e.line ++ '\n' :: l else l
      complete, rest, number := e.number + 1, replaced := false }

/-- A line with what is not visible spelled out, in parts that a backslash joins. -/
def spelled (line : Bytes) : Bytes :=
  let unit (c : Char) : Bytes :=
    match c with
    | '\x5c' => "\\\\".toList
    | '\x07' => "\\a".toList
    | '\x08' => "\\b".toList
    | '\x0c' => "\\f".toList
    | '\n' => "\\n".toList
    | '\r' => "\\r".toList
    | '\t' => "\\t".toList
    | '\x0b' => "\\v".toList
    | c =>
      if ' ' ≤ c && c ≤ '~' then [c]
      else '\x5c' :: Printing.padded false true 3 (Nat.toDigits 8 c.toNat)
  let (out, _) := line.foldl (fun (out, width) c =>
    let u := unit c
    if width + u.length > 69 then (out ++ ['\x5c', '\n'] ++ u, u.length)
    else (out ++ u, width + u.length)) ([], 0)
  out ++ ['$']

/-! ## Substitution -/

/-- A letter in the case that is asked for. -/
def cased (c : Casing) (x : Char) : Char :=
  match c with
  | .kept => x
  | .upper => x.toUpper
  | .lower => x.toLower

/-- The parts of a replacement put together. -/
def filled (group : Nat → Bytes) : (casing nextCasing : Casing) → List Filler → Bytes
  | _, _, [] => []
  | casing, once, f :: rest =>
    let put (cs : Bytes) : Bytes :=
      match cs with
      | [] => filled group casing once rest
      | c :: cs =>
        let first := if once == .kept then cased casing c else cased once c
        first :: (cs.map (cased casing) ++ filled group casing .kept rest)
    match f with
    | .text cs => put cs
    | .group i => put (group i)
    | .casing c => filled group c .kept rest
    | .nextCasing c => filled group casing c rest

/-- A line from a place on with matches replaced, `skip` of them being left as they are, and whether
any was replaced. A match without length does not count right behind another match. -/
def substituted (p : Pattern) (s : Substitution) (line : Array Char) :
    (fuel start skip : Nat) → (behind : Option Nat) → Bytes × Bool
  | 0, start, _, _ => (line.toList.drop start, false)
  | fuel + 1, start, skip, behind =>
    match Regex.find? p line start with
    | none => (line.toList.drop start, false)
    | some (i, r) =>
      let part (a b : Nat) : Bytes := (line.extract a b).toList
      if r.place = i && behind == some i then
        if i ≥ line.size then (part start i, false)
        else
          let (rest, found) := substituted p s line fuel (i + 1) skip none
          (part start (i + 1) ++ rest, found)
      else
        let group (n : Nat) : Bytes :=
          if n = 0 then part i r.place
          else (r.capture? n).elim [] fun (a, b) => part a b
        let text := if skip = 0 then filled group .kept .kept s.replacement else part i r.place
        let before := part start i ++ text
        if skip = 0 && !s.all then (before ++ part r.place line.size, true)
        else if r.place > i then
          let (rest, found) := substituted p s line fuel r.place (skip - 1) (some r.place)
          (before ++ rest, found || skip = 0)
        else if i ≥ line.size then (before, skip = 0)
        else
          let (rest, found) := substituted p s line fuel (i + 1) (skip - 1) none
          (before ++ part i (i + 1) ++ rest, found || skip = 0)

/-- The pattern that counts, and the editor that knows it was used. -/
def using? (e : Editor) (p : Option Pattern) : Option Pattern × Editor :=
  match p.or e.pattern with
  | some p => (some p, { e with pattern := some p })
  | none =>
    (none, { e with
      fault := some "-e expression #1, char 0: no previous regular expression" })

def substitute (e : Editor) (s : Substitution) : Editor :=
  match e.using? s.pattern with
  | (none, e) => e
  | (some p, e) =>
    let (line, found) := substituted p s e.line.toArray (e.line.length + 2) 0 (s.which - 1) none
    if !found then e
    else
      let e := { e with line, replaced := true }
      let e := if s.print then e.showLine line e.complete else e
      s.target.elim e fun path => e.writeTo path line

/-! ## Addresses -/

def holds (e : Editor) (a : Address) : Bool × Editor :=
  match a with
  | .number n => (e.number == n, e)
  | .last => (e.rest.isEmpty, e)
  | .every first step =>
    (if step = 0 then e.number == first
      else e.number ≥ first && (e.number - first) % step = 0, e)
  | .matching p =>
    match e.using? p with
    | (some p, e) => (Regex.occursIn p e.line, e)
    | (none, e) => (false, e)
  | .after _ | .multiple _ => (false, e)

/-- The range of a command set to where it ends, or gone. -/
def setRange (e : Editor) (place : Nat) (stop : Option (Option Nat)) : Editor :=
  let others := e.ranges.filter (·.1 != place)
  { e with ranges := match stop with
    | some s => (place, s) :: others
    | none => others }

/-- Whether a command at a place of the script applies to the line at hand. -/
def applies (e : Editor) (place : Nat) (s : EditStep) : Bool × Editor :=
  let (yes, e) := match s.start, s.stop with
    | none, _ => (true, e)
    | some a, none => e.holds a
    | some a, some b =>
      let fromZero := match a with
        | .number 0 => e.number == 1
        | _ => false
      let range := (e.ranges.lookup place).or (if fromZero then some none else none)
      match range with
      | some (some n) =>
        ((e.number ≤ n), if e.number ≥ n then e.setRange place none else e)
      | some none =>
        let (ends, e) := e.holds b
        (true, e.setRange place (if ends then none else some none))
      | none =>
        let (begins, e) := e.holds a
        if !begins then (false, e)
        else
          let upTo (n : Nat) : Editor :=
            if e.number < n then e.setRange place (some (some n)) else e
          match b with
          | .number n => (true, upTo n)
          | .after n => (true, upTo (e.number + n))
          | .multiple n =>
            (true, if n = 0 then e else upTo ((e.number / n + 1) * n))
          | .last => (true, if e.rest.isEmpty then e else e.setRange place (some none))
          | _ => (true, e.setRange place (some none))
  (yes != s.inverted, e)

/-! ## Commands -/

/-- The commands behind the end of a block, so many further blocks being open. -/
def behindBlock : (depth : Nat) → List (Nat × EditStep) → List (Nat × EditStep)
  | _, [] => []
  | depth, (_, s) :: rest =>
    match s.action with
    | .opens => behindBlock (depth + 1) rest
    | .closes => if depth = 0 then rest else behindBlock (depth - 1) rest
    | _ => behindBlock depth rest

/-- The commands behind a label. -/
def behindLabel (name : Bytes) (script : List (Nat × EditStep)) : List (Nat × EditStep) :=
  if name.isEmpty then []
  else (script.dropWhile fun (_, s) => match s.action with
    | .label l => l != name
    | _ => true).drop 1

/-- The first line of several. -/
def firstLine (cs : Bytes) : Bytes := cs.takeWhile (· != '\n')

/-- What a command does with the line at hand: what comes of the line, if its script ends here. -/
def act (e : Editor) (readFile : Bytes → Option Bytes) (silent : Bool) (place : Nat)
    (s : EditStep) : Option Outcome × Editor :=
  match s.action with
  | .substitute sub => (none, e.substitute sub)
  | .replaceBytes pairs =>
    (none, { e with line := e.line.map fun c => (pairs.lookup c).getD c })
  | .print => (none, e.showLine e.line e.complete)
  | .printFirst => (none, e.showLine (firstLine e.line) true)
  | .printNumber => (none, e.showLine (State.decimal e.number) true)
  | .printName => (none, e.showLine e.name true)
  | .list => (none, e.showLine (spelled e.line) true)
  | .delete => (some .dropped, e)
  | .deleteFirst =>
    match Text.cut? '\n' e.line with
    | some (_, rest) => (some .again, { e with line := rest })
    | none => (some .dropped, e)
  | .clear => (none, { e with line := [] })
  | .next =>
    if e.rest.isEmpty then (some .done, e)
    else
      let e := if silent then e else e.showLine e.line e.complete
      (none, (e.take? readFile false).getD e)
  | .appendNext =>
    match e.take? readFile true with
    | some e => (none, e)
    | none => (some .done, e)
  | .hold => (none, { e with held := e.line, heldComplete := e.complete })
  | .appendHold => (none, { e with held := e.held ++ '\n' :: e.line })
  | .get => (none, { e with line := e.held, complete := e.heldComplete })
  | .appendGet => (none, { e with line := e.line ++ '\n' :: e.held })
  | .exchange =>
    (none, { e with
      line := e.held, complete := e.heldComplete, held := e.line, heldComplete := e.complete })
  | .quit status quiet => (some (.quit status (!quiet)), e)
  | .append text => (none, { e with queue := e.queue ++ [.text text] })
  | .readFile path => (none, { e with queue := e.queue ++ [.file path] })
  | .insert text => (none, e.showAll text)
  | .change text =>
    let inside := s.stop.isSome && !s.inverted && (e.ranges.lookup place).isSome
    (some .dropped, if inside then e else e.showAll text)
  | .writeFile path => (none, e.writeTo path e.line)
  | .writeFirst path => (none, e.writeTo path (firstLine e.line))
  | .opens | .closes | .label _ | .jump _ _ | .nothing => (none, e)

/-- Runs the commands that are left of a script. -/
def run (script : List (Nat × EditStep)) (readFile : Bytes → Option Bytes) (silent : Bool) :
    (fuel : Nat) → List (Nat × EditStep) → Editor → Outcome × Editor
  | 0, _, e => (.done, e)
  | _ + 1, [], e => (.done, e)
  | fuel + 1, (place, s) :: rest, e =>
    let (yes, e) := e.applies place s
    if e.fault.isSome then (.quit 1 false, e)
    else match s.action, yes with
    | .opens, false => run script readFile silent fuel (behindBlock 0 rest) e
    | _, false => run script readFile silent fuel rest e
    | .jump rule name, true =>
      let taken := match rule with
        | .always => true
        | .replaced => e.replaced
        | .notReplaced => !e.replaced
      let e := if rule == .always then e else { e with replaced := false }
      run script readFile silent fuel (if taken then behindLabel name script else rest) e
    | _, true =>
      match e.act readFile silent place s with
      | (some outcome, e) => (outcome, e)
      | (none, e) =>
        if e.fault.isSome then (.quit 1 false, e)
        else run script readFile silent fuel rest e

/-- Runs a script on line after line, and answers the status. -/
def cycles (script : List (Nat × EditStep)) (readFile : Bytes → Option Bytes) (silent : Bool) :
    (fuel : Nat) → (again : Bool) → Editor → Nat × Editor
  | 0, _, e => (0, e)
  | fuel + 1, again, e =>
    match if again then some e else e.take? readFile false with
    | none => (0, e)
    | some e =>
      let (outcome, e) := run script readFile silent 20000 script e
      let shown := match outcome with
        | .done => !silent
        | .quit _ shown => shown && !silent
        | _ => false
      let e := if shown then e.showLine e.line e.complete else e
      match outcome with
      | .quit status true => (status, (e.showQueue readFile).closeLine)
      | .quit status false => (status, e)
      | outcome =>
        cycles script readFile silent fuel (match outcome with
          | .again => true
          | _ => false) (e.showQueue readFile)

/-- Lines with the ends that they have. -/
def linesWithEnds (cs : Bytes) : List (Bytes × Bool) :=
  let (lines, complete) := linesOf cs
  lines.zipIdx.map fun (l, i) => (l, complete || i + 1 < lines.length)

/-- What a script makes of texts that follow each other. -/
def onTexts (steps : List EditStep) (readFile : Bytes → Option Bytes) (silent : Bool)
    (name : Bytes) (texts : List Bytes) : Nat × Editor :=
  let script := (steps.zipIdx).map fun (s, i) => (i, s)
  let rest := texts.flatMap linesWithEnds
  let size := texts.foldl (fun n t => n + t.length) 0
  cycles script readFile silent (4 * size + 1000) false { rest, name }

/-! ## The tool -/

open Tool (Options str)

/-- Writes what the script wrote to files. -/
def save (steps : List EditStep) (e : Editor) (s : State) : State :=
  let named := steps.filterMap fun st => match st.action with
    | .writeFile path | .writeFirst path => some path
    | .substitute sub => sub.target
    | _ => none
  let paths := named.eraseDups.filter (· != "/dev/stdout".toList)
  Tool.each paths (fun path s =>
    let text := (e.written.filter (·.1 == path)).flatMap (·.2)
    (Tool.replaceFile path text s).getD
      (s.complain ("sed: couldn't open file " ++ str path ++ ": No such file or directory") 4)) s

/-- The end of a run: its output is shown or replaces a file. -/
def conclude (steps : List EditStep) (target : Option Bytes) (found : Nat × Editor) (s : State) :
    State :=
  let (status, e) := found
  let s := match target with
    | none => s.print e.out
    | some path => (Tool.replaceFile path e.out s).getD s
  let s := save steps e s
  match e.fault with
  | some message => s.complain ("sed: " ++ message) 1
  | none => if status = 0 then s else s.finish status

/-- The option that changes files in place may have the ending of copies behind it, which then has
an option of its own. -/
def spelledOut (arg : Bytes) : List Bytes :=
  match arg with
  | '-' :: 'i' :: c :: cs => [['-', 'i'], '-' :: 'B' :: c :: cs]
  | _ => [arg]

def runTool : Tool.Run := fun args s =>
  match Options.read "sed" "nErsizu" "eflB" (args.flatMap spelledOut) with
  | .error message =>
    s.complain ("sed: " ++ message ++
      "\nUsage: sed [OPTION]... \x7bscript-only-if-no-other-script\x7d [input-file]...") 1
  | .ok o =>
    let given := o.chosen.filter fun (c, _) => c == 'e' || c == 'f'
    let implied := given.isEmpty
    let missing := (o.values 'f').find? fun f => (s.readFile? f).isNone
    let parts := given.map fun (c, v) =>
      if c == 'e' then v
      else
        let text := (s.readFile? v).getD []
        if text.getLast? == some '\n' then text.dropLast else text
    let parts := if implied then o.operands.take 1 else parts
    let files := if implied then o.operands.drop 1 else o.operands
    let silent := o.has 'n' || (parts.head?.any fun p => (Text.after? ['#', 'n', '\n'] p).isSome)
    match missing with
    | some f => s.complain ("sed: couldn't open file " ++ str f ++ ": No such file or directory") 4
    | none =>
      if parts.isEmpty then
        s.complain "Usage: sed [OPTION]... \x7bscript-only-if-no-other-script\x7d [input-file]..." 1
      else
        let style : RegexStyle := { extended := o.has 'E' || o.has 'r', lenient := false }
        match EditScript.read style parts with
        | .error (message, status) => s.complain ("sed: " ++ message) status
        | .ok steps =>
          let s := s.finish 0
          let complaint (f : Bytes) (s : State) : State :=
            if s.files.isDirectory (str f) then
              if o.has 'i' then
                s.complain ("sed: couldn't edit " ++ str f ++ ": not a regular file") 4
              else s.complain ("sed: read error on " ++ str f ++ ": Is a directory") 4
            else s.complain ("sed: can't read " ++ str f ++ ": No such file or directory") 2
          let (texts, s) := Tool.inputsOr complaint files s
          let apart := o.has 'i' || o.has 's'
          if apart then
            texts.foldl (fun s (f, text) =>
              let target := if o.has 'i' && f != ['-'] then some f else none
              let copy := (o.value? 'B').map fun ending => f ++ ending
              let s := (copy.bind fun path => Tool.replaceFile path text s).getD s
              conclude steps target (onTexts steps s.readFile? silent f [text]) s) s
          else
            let name := (texts.head?.map (·.1)).getD ['-']
            conclude steps none (onTexts steps s.readFile? silent name (texts.map (·.2))) s

end Editor
end Shell
end DocExamples
