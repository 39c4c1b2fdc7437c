/-
# Records in documents

A record is read from a table, its fields by name; names that it does not know are ignored and
names that it knows may stand only once. Some notations also let a list stand for a record, its
items being the fields in order.
-/

import DocExamples.Document.Basic

namespace DocExamples
namespace Document

/-- Whether a list may stand for a record. -/
inductive Positional where
  | refused
  /-- The list has no further items. -/
  | exact
  /-- Further items are ignored. -/
  | atLeast
deriving DecidableEq, Repr

/-- The fields of a record that are present, as values of some notation. In a record that was
read from a list a missing field has no value even if it may be left out of a table. -/
structure Record (V : Type) where
  positional : Bool
  fields : List (String × V)

/-- The record that a document stands for, with the given field names. -/
def record? (style : Positional) (names : List String) : Document → Option (Record Document)
  | table entries =>
    let known := entries.filter fun e => names.contains e.1
    if (known.map (·.1)).eraseDups.length = known.length then some ⟨false, known⟩ else none
  | list items =>
    match style with
    | .refused => none
    | .exact => if items.length ≤ names.length then some ⟨true, names.zip items⟩ else none
    | .atLeast => some ⟨true, names.zip items⟩
  | _ => none

namespace Record

variable {V α : Type} {M : Type → Type} [Monad M] [MonadExcept Unit M]

def get? (r : Record V) (name : String) : Option V :=
  (r.fields.find? (·.1 == name)).map (·.2)

/-- A field that has to be there. -/
def required (r : Record V) (name : String) (read : V → M α) : M α :=
  match r.get? name with
  | none => throw ()
  | some v => read v

/-- A field with a value of its own if it is left out. -/
def defaulted (r : Record V) (name : String) (value : α) (read : V → M α) : M α :=
  match r.get? name with
  | none => pure value
  | some v => read v

/-- A field that is absent if it is left out or holds no value. -/
def optional (r : Record V) (name : String) (read : V → M (Option α)) : M (Option α) :=
  match r.get? name with
  | none => if r.positional then throw () else pure none
  | some v => read v

end Record

/-- A text. -/
def text? : Document → Option String
  | text s => some s
  | _ => none

/-- A word out of a few: a text, or a table whose one entry has no value. -/
def word? : Document → Option String
  | text s => some s
  | table [(s, null)] => some s
  | _ => none

/-- A value or none. -/
def optional? {α : Type} (read : Document → Option α) : Document → Option (Option α)
  | null => some none
  | d => (read d).map some

/-- A list of values. -/
def list? {α : Type} (read : Document → Option α) : Document → Option (List α)
  | list items => items.mapM read
  | _ => none

def bool? : Document → Option Bool
  | bool b => some b
  | _ => none

/-- A whole number from 0 to `limit - 1`. -/
def bounded? (limit : Nat) : Document → Option Nat
  | int n => if 0 ≤ n ∧ n.toNat < limit then some n.toNat else none
  | _ => none

/-- A number. -/
def float? : Document → Option Float
  | float x => some x
  | int n => some (if n < 0 then -(n.natAbs.toUInt64.toFloat) else n.toNat.toUInt64.toFloat)
  | _ => none

/-- How values `V` of a notation are read. -/
structure Format (V : Type) (M : Type → Type) where
  text : V → M String
  /-- A word out of a few. -/
  word : V → M String
  optional : {α : Type} → (V → M α) → V → M (Option α)
  list : {α : Type} → (V → M α) → V → M (List α)
  /-- A record with the given field names. -/
  record : List String → V → M (Record V)

/-- Documents as values. -/
def format (style : Positional) : Format Document Option where
  text := text?
  word := word?
  optional := optional?
  list := list?
  record := record? style

end Document
end DocExamples
