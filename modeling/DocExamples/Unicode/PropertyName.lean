/-
# Sets of characters by name

A set is named by a property alone, by a general category, by a script, or by a property and its
value, such as `Age` and `3.0`.
-/

import DocExamples.Unicode.Age
import DocExamples.Unicode.Break
import DocExamples.Unicode.Property
import DocExamples.Unicode.Script

namespace DocExamples
namespace Unicode

/-- A name without what is ignored in it: case, blanks, hyphens, underscores, what is not among
the first 128 code points, and `is` at the very start. `isc` is the name of a property that is not
known here and keeps its `is`, so that it does not pass for the category `c`. -/
def looseName (name : String) : String :=
  let bare (cs : List Char) : List Char :=
    (cs.filter fun c => c.toNat < 128 && !(c == ' ' || c == '-' || c == '_')).map Char.toLower
  match name.toList with
  | i :: s :: rest =>
    if i.toLower == 'i' && s.toLower == 's' then
      if bare rest == ['c'] then "isc" else String.ofList (bare rest)
    else String.ofList (bare (i :: s :: rest))
  | cs => String.ofList (bare cs)

/-- The set of a general category, or of all, of all assigned or of the first 128 characters. -/
def generalCategory? (name : String) : Option CharSet :=
  match name with
  | "any" => some .full
  | "assigned" => some (Category.set [.cn]).compl
  | "ascii" => some (.ofCodes 0 127)
  | _ => (Category.named? name).map Category.set

/-- The set of a name without a value. -/
def property? (name : String) : Option CharSet :=
  let name := looseName name
  (NamedSet.find? name properties).or
    ((generalCategory? name).or ((script? name).map fun s => s.set))

/-- The set of the characters that have a value of a property. -/
def propertyValue? (name value : String) : Option CharSet :=
  let value := looseName value
  match looseName name with
  | "generalcategory" | "gc" => generalCategory? value
  | "script" | "sc" => (script? value).map fun s => s.set
  | "scriptextensions" | "scx" => (script? value).map Script.extension
  | "age" => age? value
  | "graphemeclusterbreak" | "gcb" => NamedSet.find? value graphemeBreaks
  | "wordbreak" | "wb" => NamedSet.find? value wordBreaks
  | "sentencebreak" | "sb" => NamedSet.find? value sentenceBreaks
  | _ => none

end Unicode

namespace CharSet

/-- The word characters. -/
def word : CharSet := Unicode.wordChars

/-- The decimal digits. -/
def digit : CharSet := Unicode.Category.set [.nd]

/-- The letters and what is used like letters. -/
def alphabetic : CharSet := Unicode.alphabetic.set

/-- The numbers. -/
def numeric : CharSet := Unicode.Category.set [.nd, .nl, .no]

end CharSet
end DocExamples
