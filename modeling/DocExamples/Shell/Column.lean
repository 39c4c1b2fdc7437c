/-
# Columns

Tools that look at the places in lines: `cut` keeps some of their bytes or fields, `paste` puts the
lines of files side by side, `fold` breaks long lines, `nl` numbers them and `od` shows each byte.
-/

import DocExamples.Shell.Tool

namespace DocExamples
namespace Shell
namespace Column

open Tool (Options Run str usage withOptions)

/-! ## Lists of places -/

/-- Places from one to another, both of them included; without an end up to the last one. -/
abbrev Span := Nat × Option Nat

/-- What has been read of one part of a list. -/
structure SpanReader where
  fields : Bool
  dashed : Bool := false
  low : Option Nat := none
  number : Option Nat := none

namespace SpanReader

def fromOne (r : SpanReader) : String :=
  if r.fields then "fields are numbered from 1" else "byte/character positions are numbered from 1"

/-- The span that ends here. -/
def span (r : SpanReader) : Except String Span :=
  if !r.dashed then
    match r.number with
    | none | some 0 => .error r.fromOne
    | some n => .ok (n, some n)
  else match r.low, r.number with
    | none, none => .error "invalid range with no endpoint: -"
    | low, none => .ok (low.getD 1, none)
    | low, some n => if n < low.getD 1 then .error "invalid decreasing range"
      else .ok (low.getD 1, some n)

/-- The spans of a list. -/
def read (r : SpanReader) : Bytes → Except String (List Span)
  | [] => r.span.map fun s => [s]
  | c :: rest =>
    if c == ',' || c == ' ' || c == '\t' then do
      let s ← r.span
      return s :: (← read { fields := r.fields } rest)
    else if c == '-' then
      if r.dashed then
        .error (if r.fields then "invalid field range" else "invalid byte or character range")
      else if r.number == some 0 then .error r.fromOne
      else read { r with dashed := true, low := r.number, number := none } rest
    else if c.isDigit then
      read { r with number := some (r.number.getD 0 * 10 + (c.toNat - 48)) } rest
    else
      .error ((if r.fields then "invalid field value '" else "invalid byte/character position '") ++
        str (c :: rest) ++ "'")

end SpanReader

/-- Spans in order, those that overlap joined. -/
def joined (spans : List Span) : List Span :=
  (spans.mergeSort fun a b => a.1 ≤ b.1).foldr (fun s later =>
    match later with
    | t :: more =>
      if s.2.all fun high => t.1 ≤ high then
        (s.1, match s.2, t.2 with
          | some a, some b => some (max a b)
          | _, _ => none) :: more
      else s :: later
    | [] => [s]) []

/-- The spans between spans, from a place on. -/
def between : (start : Nat) → List Span → List Span
  | start, [] => [(start, none)]
  | start, (low, high) :: rest =>
    let gap := if start < low then [(start, some (low - 1))] else []
    gap ++ match high with
      | some h => between (h + 1) rest
      | none => []

def Span.slice {α : Type} (s : Span) (xs : List α) : List α :=
  let rest := xs.drop (s.1 - 1)
  s.2.elim rest fun high => rest.take (high + 1 - s.1)

/-! ## Cutting -/

def cut : Run := withOptions "cut" "snzC" "bcfdO" 1 fun o s =>
  let wrong (message : String) : State := usage "cut" message 1 s
  let lists := o.values 'b' ++ o.values 'c' ++ o.values 'f'
  let fields := o.has 'f'
  if (o.value? 'd').any fun d => 1 < d.length then
    wrong "the delimiter must be a single character"
  else match lists with
  | [] => wrong "you must specify a list of bytes, characters, or fields"
  | _ :: _ :: _ => wrong "only one list may be specified"
  | [list] =>
    if !fields && o.has 'd' then
      wrong "an input delimiter may be specified only when operating on fields"
    else if !fields && o.has 's' then
      wrong "suppressing non-delimited lines makes sense\n\tonly when operating on fields"
    else match SpanReader.read { fields } list with
    | .error message => wrong message
    | .ok spans =>
      let spans := joined spans
      let spans := if o.has 'C' then between 1 spans else spans
      let mark := (o.value? 'd').elim '\t' fun d => d.headD '\x00'
      let joint := o.value? 'O'
      let cutLine (line : Bytes) : Option Bytes :=
        if !fields then
          some ((joint.getD []).intercalate
            ((spans.map fun p => Span.slice p line).filter (!·.isEmpty)))
        else if line.contains mark then
          some ((joint.getD [mark]).intercalate
            (spans.flatMap fun p => Span.slice p (Text.splitOn mark line)))
        else if o.has 's' then none
        else some line
      Tool.showEach "cut" (fun text => withEnds ((linesOf text).1.filterMap cutLine)) o.operands s

/-! ## Pasting -/

/-- The separators of a list, none where a zero is escaped; nothing if a backslash ends it. -/
def separators? : Bytes → Option (List Bytes)
  | [] => some []
  | ['\x5c'] => none
  | '\x5c' :: c :: rest =>
    let mark := match c with
      | '0' => []
      | 'n' => ['\n']
      | 't' => ['\t']
      | c => [c]
    (separators? rest).map (mark :: ·)
  | c :: rest => (separators? rest).map ([c] :: ·)

/-- Parts with the separators between them, which are used in turn. -/
def alternated (marks : List Bytes) (parts : List Bytes) : Bytes :=
  (parts.zipIdx.flatMap fun (p, i) =>
    (if i = 0 then [] else (marks[(i - 1) % max marks.length 1]?).getD []) ++ p)

/-- The lines of a column among so many that share the input. -/
def dealt (lines : List Bytes) (count index : Nat) : List Bytes :=
  lines.zipIdx.filterMap fun (l, i) => if i % count = index then some l else none

def paste : Run := withOptions "paste" "sz" "d" 1 fun o s =>
  match separators? ((o.value? 'd').getD ['\t']) with
  | none =>
    s.complain ("paste: delimiter list ends with an unescaped backslash: " ++
      str ((o.value? 'd').getD [])) 1
  | some marks =>
    let files := if o.operands.isEmpty then [['-']] else o.operands
    let gone := files.any fun f => f != ['-'] && (s.readFile? f).isNone
    if gone && !o.has 's' then (Tool.inputs "paste" files s).2
    else if o.has 's' then
      let (texts, s) := Tool.inputs "paste" files s
      s.print (withEnds (texts.map fun t => alternated marks (linesOf t.2).1))
    else
      let shared := (linesOf s.input).1
      let count := files.count ['-']
      let columns := files.zipIdx.map fun (f, i) =>
        if f == ['-'] then dealt shared count ((files.take i).count ['-'])
        else (linesOf ((s.readFile? f).getD [])).1
      let height := columns.foldl (fun n c => max n c.length) 0
      let rows := (List.range height).map fun i => columns.map fun lines => (lines[i]?).getD []
      let s := if count > 0 then { s with input := [] } else s
      s.print (withEnds (rows.map (alternated marks)))

/-! ## Folding -/

/-- The column after a character. -/
def advance (bytes : Bool) (column : Nat) (c : Char) : Nat :=
  if bytes then column + 1
  else match c with
    | '\t' => column + 8 - column % 8
    | '\x08' => column - 1
    | '\r' => 0
    | _ => column + 1

/-- Puts a character on a line that stands in reverse, which is broken if it gets too long, after
its last blank if there is one and that is asked for. What is finished comes first. -/
def put (bytes spaces : Bool) (width : Nat) :
    (fuel : Nat) → (line : Bytes) → Char → Bytes × Bytes
  | 0, line, c => ([], c :: line)
  | fuel + 1, line, c =>
    let column := line.reverse.foldl (advance bytes) 0
    if line.isEmpty || advance bytes column c ≤ width then ([], c :: line)
    else
      let tail := line.takeWhile fun c => c != ' ' && c != '\t'
      let head := line.drop tail.length
      let (done, left) := if spaces && !head.isEmpty then (head, tail) else (line, [])
      let (more, line) := put bytes spaces width fuel left c
      (done.reverse ++ '\n' :: more, line)

def folded (bytes spaces : Bool) (width : Nat) (text : Bytes) : Bytes :=
  let (out, line) := text.foldl (fun (out, line) c =>
    if c == '\n' then (out ++ line.reverse ++ ['\n'], [])
    else
      let (done, line) := put bytes spaces width 3 line c
      (out ++ done, line)) ([], [])
  out ++ line.reverse

/-- A number given as an option of its own. -/
def widthOption (arg : Bytes) : List Bytes :=
  match arg with
  | '-' :: d :: ds => if (d :: ds).all Char.isDigit then [['-', 'w'], d :: ds] else [arg]
  | _ => [arg]

def fold : Run := fun args => withOptions "fold" "bs" "w" 1 (fun o s =>
  let given := (o.value? 'w').getD "80".toList
  match Decimal.nat? given with
  | none => s.complain ("fold: invalid number of columns: '" ++ str given ++ "'") 1
  | some 0 =>
    s.complain "fold: invalid number of columns: '0': Numerical result out of range" 1
  | some width =>
    Tool.showEach "fold" (folded (o.has 'b') (o.has 's') width) o.operands s)
  (args.flatMap widthOption)

/-! ## Numbering -/

def nl : Run := withOptions "nl" "p" "bwsvinhfld" 1 fun o s =>
  let natural (letter : Char) (default : Nat) (what : String) : Except String Nat :=
    match o.value? letter with
    | none => .ok default
    | some v => match Decimal.nat? v with
      | some n => .ok n
      | none => .error ("invalid " ++ what ++ ": '" ++ str v ++ "'")
  let style := (o.value? 'b').getD ['t']
  let layout := (o.value? 'n').getD ['r', 'n']
  if !([['a'], ['t'], ['n']].contains style) then
    usage "nl" ("invalid body numbering style: '" ++ str style ++ "'") 1 s
  else if !([['r', 'n'], ['l', 'n'], ['r', 'z']].contains layout) then
    usage "nl" ("invalid line numbering format: '" ++ str layout ++ "'") 1 s
  else match natural 'w' 6 "line number field width", natural 'v' 1 "starting line number",
      natural 'i' 1 "line number increment" with
  | .ok width, .ok start, .ok step =>
    let mark := (o.value? 's').getD ['\t']
    let (texts, s) := Tool.inputs "nl" o.operands s
    let lines := texts.flatMap fun t => (linesOf t.2).1
    let number (n : Nat) : Bytes :=
      Printing.padded (layout == ['l', 'n']) (layout == ['r', 'z']) width (State.decimal n)
    let (out, _) := lines.foldl (fun (out, n) (line : Bytes) =>
      if style == ['a'] || style == ['t'] && !line.isEmpty then
        (out ++ [number n ++ mark ++ line], n + step)
      else (out ++ [List.replicate (width + mark.length) ' ' ++ line], n)) ([], start)
    s.print (withEnds out)
  | .error e, _, _ | _, .error e, _ | _, _, .error e => s.complain ("nl: " ++ e) 1

/-! ## Showing bytes -/

/-- How bytes are shown: so many at a time, as a number in some base or as a character. -/
structure ByteStyle where
  size : Nat
  width : Nat
  text : Bytes → Bytes

/-- The number of some bytes, the lowest first. -/
def valueOf (cs : Bytes) : Nat := cs.foldr (fun c n => c.toNat + 256 * n) 0

/-- The digits of a number, as many as its greatest value needs. -/
def digits (base width : Nat) (cs : Bytes) : Bytes :=
  Printing.padded false true width (Nat.toDigits base (valueOf cs))

/-- The number of some bytes, of which the upper half is negative. -/
def signedText (size : Nat) (cs : Bytes) : Bytes :=
  let limit := valueOf (List.replicate size (Char.ofNat 255)) + 1
  let n := valueOf cs
  if n < limit / 2 then State.decimal n else '-' :: State.decimal (limit - n)

/-- A byte as a character or by its escape. -/
def byteText (cs : Bytes) : Bytes :=
  match cs with
  | [c] =>
    match c with
    | '\x00' => ['\x5c', '0']
    | '\x07' => ['\x5c', 'a']
    | '\x08' => ['\x5c', 'b']
    | '\x0c' => ['\x5c', 'f']
    | '\n' => ['\x5c', 'n']
    | '\r' => ['\x5c', 'r']
    | '\t' => ['\x5c', 't']
    | '\x0b' => ['\x5c', 'v']
    | c => if ' ' ≤ c && c ≤ '~' then [c] else digits 8 3 [c]
  | _ => []

/-- The style of a type: a letter and a size. -/
def ByteStyle.ofType? (type : Bytes) : Option ByteStyle :=
  let size := match type.tail with
    | [] => some 4
    | ['1'] | ['C'] => some 1
    | ['2'] | ['S'] => some 2
    | ['4'] | ['I'] => some 4
    | _ => none
  size.bind fun size =>
    let width (one two four : Nat) : Nat := if size = 1 then one else if size = 2 then two else four
    match type.head? with
    | some 'o' => some ⟨size, width 3 6 11, digits 8 (width 3 6 11)⟩
    | some 'x' => some ⟨size, width 2 4 8, digits 16 (width 2 4 8)⟩
    | some 'u' => some ⟨size, width 3 5 10, fun cs => State.decimal (valueOf cs)⟩
    | some 'd' => some ⟨size, width 4 6 11, signedText size⟩
    | some 'c' => some ⟨1, 3, byteText⟩
    | _ => none

/-- The styles that options ask for, in order. -/
def ByteStyle.ofOptions (o : Options) : List ByteStyle :=
  let types : List Bytes := o.chosen.filterMap fun (c, v) =>
    match c with
    | 't' => some (v.filter (· != 'z'))
    | 'c' => some ['c']
    | 'b' => some ['o', '1']
    | 'x' => some ['x', '2']
    | 'o' => some ['o', '2']
    | 'd' => some ['u', '2']
    | _ => none
  (if types.isEmpty then [['o', '2']] else types).filterMap ByteStyle.ofType?

/-- Bytes in groups of a size, the last one filled up with zeros. -/
def groups (size : Nat) : (fuel : Nat) → Bytes → List Bytes
  | 0, _ => []
  | _ + 1, [] => []
  | fuel + 1, cs =>
    let g := cs.take size
    (g ++ List.replicate (size - g.length) '\x00') :: groups size fuel (cs.drop size)

/-- An offset in the base of a letter, none if offsets are not shown. -/
def offset (base : Char) (n : Nat) : Bytes :=
  match base with
  | 'n' => []
  | 'd' => Printing.padded false true 7 (State.decimal n)
  | 'x' => Printing.padded false true 6 (Nat.toDigits 16 n)
  | _ => Printing.padded false true 7 (Nat.toDigits 8 n)

/-- The lines of bytes from an offset on, those equal to the line before left out. -/
def byteLines (styles : List ByteStyle) (base : Char) (all : Bool) :
    (fuel start : Nat) → (last : Option Bytes) → (starred : Bool) → Bytes → List Bytes
  | 0, _, _, _, _ => []
  | _ + 1, start, _, _, [] => if base == 'n' then [] else [offset base start]
  | fuel + 1, start, last, starred, cs =>
    let block := cs.take 16
    let rest := cs.drop 16
    if !all && block.length = 16 && last == some block then
      (if starred then [] else [['*']]) ++
        byteLines styles base all fuel (start + 16) last true rest
    else
      let room := styles.foldl (fun n st => max n ((st.width + 1) * (16 / st.size))) 0
      let shown := styles.zipIdx.map fun (st, i) =>
        let lead := offset base start
        (if i = 0 then lead else lead.map fun _ => ' ') ++
          (groups st.size 17 block).flatMap fun g =>
            Printing.padded false false (room / (16 / st.size)) (st.text g)
      shown ++ byteLines styles base all fuel (start + block.length) (some block) false rest

def od : Run := withOptions "od" "bcdoxv" "AtNjw" 1 fun o s =>
  let (texts, s) := Tool.inputs "od" o.operands s
  if texts.isEmpty then s
  else
    let number (letter : Char) : Option Nat := (o.value? letter).bind Decimal.nat?
    let skipped := (number 'j').getD 0
    let text := (texts.flatMap (·.2)).drop skipped
    let text := (number 'N').elim text text.take
    let base := ((o.value? 'A').getD []).headD 'o'
    s.print (withEnds (byteLines (ByteStyle.ofOptions o) base (o.has 'v') (text.length + 2) skipped
      none false text))

end Column
end Shell
end DocExamples
