/-
# Comment lines

A line is a comment if it starts with two slashes after its blanks. Its text is what follows the
marker, blanks at both ends dropped; the markers of documentation comments are one character
longer.
-/

import DocExamples.Text.Blank
import DocExamples.Text.Search

namespace DocExamples
namespace Scan

/-- The characters of a comment line after its marker, if the line is a comment. -/
def commentChars? (line : List Char) : Option (List Char) :=
  let cs := Text.trim line
  (((Text.after? ['/', '/', '/'] cs).or (Text.after? ['/', '/', '!'] cs)).or
    (Text.after? ['/', '/'] cs)).map Text.trim

/-- The text of a comment line, if the line is a comment. -/
def commentText? (line : String) : Option String :=
  (commentChars? line.toList).map String.ofList

/-- Whether there is nothing but blanks on a line. -/
def isBlankLine (line : String) : Bool := line.toList.all Text.isBlank

/-- The comment that belongs to the declaration on the line at `index`: the nearest run of
comment lines above it, blank lines between the run and the declaration being skipped. If what is
nearest above is no comment, it is the comment on the line right after the declaration. -/
def attachedComment? (lines : List String) (index : Nat) : Option String :=
  let above := (lines.take index).reverse.dropWhile isBlankLine
  let run := (above.map commentText?).takeWhile Option.isSome
  if run.isEmpty then lines[index + 1]?.bind commentText?
  else some ("\n".intercalate (run.reverse.filterMap id))

end Scan
end DocExamples
