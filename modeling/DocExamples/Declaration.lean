/-
# Declarations

What a source file declares: a name, a kind, a place, the comment attached to it and the
declarations nested in it. A declaration is written to a data file with its absent comment and
its empty list of nested declarations left out, and reading restores both.
-/

import DocExamples.Document.Record

namespace DocExamples

/-- A place in a source file, lines and columns counted from one. -/
structure Location where
  file : String
  line : UInt32
  column : UInt32
deriving DecidableEq, Repr, Inhabited

namespace Location

/-- The file and the line, as shown to users. -/
def display (l : Location) : String := l.file ++ ":" ++ toString l.line.toNat

def toDocument (l : Location) : Document :=
  .table [("column", .nat l.column.toNat), ("file", .text l.file), ("line", .nat l.line.toNat)]

/-- A number of 32 bits. -/
def number? (d : Document) : Option UInt32 := (d.bounded? UInt32.size).map UInt32.ofNat

def ofDocument? (d : Document) : Option Location := do
  let r ← d.record? .exact ["file", "line", "column"]
  return {
    file := ← r.required "file" Document.text?
    line := ← r.required "line" number?
    column := ← r.required "column" number? }

end Location

/-- What is declared. -/
inductive DeclarationKind where
  | struct | union | class_ | classTemplate | namespace_ | function | functionTemplate
  /-- Members are only found by providers that understand the bodies of classes. -/
  | method | constructor | destructor
deriving DecidableEq, Repr, Inhabited

namespace DeclarationKind

def all : List DeclarationKind :=
  [struct, union, class_, classTemplate, namespace_, function, functionTemplate, method,
    constructor, destructor]

/-- Functions, members and function templates. -/
def isCallable : DeclarationKind → Bool
  | function | functionTemplate | method | constructor | destructor => true
  | _ => false

/-- Classes, structs and class templates; unions are not counted among them. -/
def isClassLike : DeclarationKind → Bool
  | class_ | struct | classTemplate => true
  | _ => false

def isNamespace (k : DeclarationKind) : Bool := k == namespace_

/-- The kind in words. -/
def display : DeclarationKind → String
  | struct => "struct"
  | union => "union"
  | class_ => "class"
  | classTemplate => "class template"
  | namespace_ => "namespace"
  | function => "function"
  | functionTemplate => "function template"
  | method => "method"
  | constructor => "constructor"
  | destructor => "destructor"

/-- The kind in data files. -/
def key : DeclarationKind → String
  | classTemplate => "class_template"
  | functionTemplate => "function_template"
  | k => k.display

def ofKey? (s : String) : Option DeclarationKind := all.find? fun k => k.key == s

/-- A kind is written as a text, or as a table whose one entry has no value. -/
def ofDocument? : Document → Option DeclarationKind
  | .text s => ofKey? s
  | .table [(s, .null)] => ofKey? s
  | _ => none

end DeclarationKind

/-- Something declared in a source file. -/
structure Declaration where
  name : String
  kind : DeclarationKind
  location : Location
  comment : Option String := none
  children : List Declaration := []
deriving Repr, Inhabited

namespace Declaration

/-- The line the declaration stands on. -/
def line (d : Declaration) : UInt32 := d.location.line

/-- Whether two declarations have the same name and kind. -/
def sameAs (a b : Declaration) : Bool := a.name == b.name && a.kind == b.kind

mutual

/-- The declaration as it is written, what is absent or empty left out. -/
def toDocument : Declaration → Document
  | ⟨name, kind, location, comment, children⟩ =>
    .present [
      ("children", if children.isEmpty then none else some (.list (toDocuments children))),
      ("comment", comment.map .text),
      ("kind", some (.text kind.key)),
      ("location", some location.toDocument),
      ("name", some (.text name))]

def toDocuments : List Declaration → List Document
  | [] => []
  | d :: ds => toDocument d :: toDocuments ds

end

/-- The declaration that a document of at most the given nesting holds. -/
def read? : (height : Nat) → Document → Option Declaration
  | 0, _ => none
  | n + 1, d => do
    let r ← d.record? .exact ["name", "kind", "location", "comment", "children"]
    return {
      name := ← r.required "name" Document.text?
      kind := ← r.required "kind" DeclarationKind.ofDocument?
      location := ← r.required "location" Location.ofDocument?
      comment := ← r.optional "comment" (Document.optional? Document.text?)
      children := ← r.defaulted "children" [] (Document.list? (read? n)) }

/-- The declaration that a document holds. -/
def ofDocument? (d : Document) : Option Declaration := read? (d.height + 1) d

end Declaration
end DocExamples
