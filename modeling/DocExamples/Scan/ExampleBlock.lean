/-
# Example blocks

A comment whose text starts with three closing angles opens an example block. The comments after
it belong to the block: those that start with three dots continue its code, all others are its
output, of which empty lines at the end do not count. The block ends before the first line that
is no comment or opens the next block.
-/

import DocExamples.Example
import DocExamples.Scan.Comment
import DocExamples.Text.Lines
import DocExamples.Text.Utf8

namespace DocExamples
namespace Scan

/-- The marker that opens a block. -/
def openMarker : List Char := ['>', '>', '>']

/-- The marker of further lines of code. -/
def moreMarker : List Char := ['.', '.', '.']

/-- What a line means for example blocks. -/
inductive BlockLine where
  /-- No comment. -/
  | other
  /-- A marker and the code after it. -/
  | opening (code : List Char)
  | more (code : List Char)
  | output (text : List Char)
deriving DecidableEq, Repr

def BlockLine.of (line : String) : BlockLine :=
  match commentChars? line.toList with
  | none => .other
  | some text =>
    match Text.after? openMarker text, Text.after? moreMarker text with
    | some code, _ => .opening (Text.trim code)
    | none, some code => .more (Text.trim code)
    | none, none => .output text

/-- A block that is still open: where it was opened, its lines of code and of output, the latest
first. -/
structure OpenBlock where
  line : UInt32
  column : UInt32
  code : List (List Char)
  output : List (List Char) := []

/-- The lines with line feeds between them. -/
def joined (lines : List (List Char)) : String := Text.joinLines (lines.map String.ofList)

/-- The example of a finished block. -/
def OpenBlock.close (file : String) (b : OpenBlock) : Example :=
  let output := (b.output.dropWhile List.isEmpty).reverse
  { code := joined b.code.reverse
    expected := if output.isEmpty then none else some (joined output)
    location := ⟨file, b.line, b.column⟩ }

/-- The column of the marker: one more than the number of bytes before it. -/
def markerColumn (line : String) : UInt32 :=
  let cs := line.toList
  let before := cs.take ((Text.indexOf? openMarker cs).getD 0)
  UInt32.ofNat (Text.width before + 1)

/-- The examples from the line at `index` on, `block` being open before it. -/
def blocksFrom (file : String) : (index : Nat) → (block : Option OpenBlock) → List String →
    List Example
  | _, block, [] => (block.map (OpenBlock.close file)).toList
  | index, block, line :: rest =>
    match BlockLine.of line with
    | .other => (block.map (OpenBlock.close file)).toList ++ blocksFrom file (index + 1) none rest
    | .opening code =>
      (block.map (OpenBlock.close file)).toList ++
        blocksFrom file (index + 1)
          (some { line := UInt32.ofNat (index + 1), column := markerColumn line, code := [code] })
          rest
    | .more code =>
      blocksFrom file (index + 1) (block.map fun b => { b with code := code :: b.code }) rest
    | .output text =>
      blocksFrom file (index + 1) (block.map fun b => { b with output := text :: b.output }) rest

/-- The examples in the lines of a file, without their parents. -/
def exampleBlocks (file : String) (lines : List String) : List Example :=
  blocksFrom file 0 none lines

end Scan
end DocExamples
