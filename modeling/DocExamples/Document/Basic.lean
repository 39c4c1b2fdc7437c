/-
# Documents

A document is what a data file holds, whatever its notation: scalars, lists, and tables of named
entries in the order they were written, repeated names included.
-/

namespace DocExamples

/-- The content of a data file. -/
inductive Document where
  | null
  | bool (b : Bool)
  | int (n : Int)
  | float (x : Float)
  | text (s : String)
  /-- A value that its notation can write but no reader can take, such as a number out of range. -/
  | unreadable
  | list (items : List Document)
  | table (entries : List (String × Document))
deriving Inhabited

namespace Document

/-- The entry of a table under a name, the last one if there are several. -/
def entry? (d : Document) (name : String) : Option Document :=
  match d with
  | table entries => (entries.reverse.find? (·.1 == name)).map (·.2)
  | _ => none

mutual

/-- How deep lists and tables nest. -/
def height : Document → Nat
  | list items => heightOfItems items + 1
  | table entries => heightOfEntries entries + 1
  | _ => 0

def heightOfItems : List Document → Nat
  | [] => 0
  | d :: rest => max (height d) (heightOfItems rest)

def heightOfEntries : List (String × Document) → Nat
  | [] => 0
  | (_, d) :: rest => max (height d) (heightOfEntries rest)

end

def nat (n : Nat) : Document := int (Int.ofNat n)

/-- A table with an entry for each value that is present. -/
def present (entries : List (String × Option Document)) : Document :=
  table (entries.filterMap fun (name, value) => value.map (name, ·))

end Document
end DocExamples
