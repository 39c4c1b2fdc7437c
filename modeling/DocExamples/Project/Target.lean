/-
# Build targets

A target is built from sources with flags of its own. It owns a source that it lists, paths being
compared by their last components: the path that has fewer of them decides how many.
-/

import DocExamples.Document.Record
import DocExamples.Path

namespace DocExamples

inductive TargetKind where
  | executable | staticLibrary | sharedLibrary | interfaceLibrary
deriving DecidableEq, Repr, Inhabited

namespace TargetKind

def all : List TargetKind := [executable, staticLibrary, sharedLibrary, interfaceLibrary]

def isLibrary (k : TargetKind) : Bool := k != executable

/-- The kind in project descriptions. -/
def key : TargetKind → String
  | executable => "EXECUTABLE"
  | staticLibrary => "STATIC_LIBRARY"
  | sharedLibrary => "SHARED_LIBRARY"
  | interfaceLibrary => "INTERFACE_LIBRARY"

def ofKey? (s : String) : Option TargetKind := all.find? fun k => k.key == s

end TargetKind

/-- Something that is built from sources. -/
structure Target where
  name : String
  kind : TargetKind
  sources : List String := []
  includePaths : List String := []
  definitions : List String := []
  options : List String := []
  linkLibraries : List String := []
deriving DecidableEq, Repr, Inhabited

/-- The flags needed to compile one source. -/
structure CompileCommand where
  definitions : List String
  options : List String
  includePaths : List String
deriving DecidableEq, Repr

namespace CompileCommand

/-- The flags as arguments of a compiler: include paths, definitions, then the other options. -/
def arguments (c : CompileCommand) : List String :=
  c.includePaths.map ("-I" ++ ·) ++ c.definitions.map ("-D" ++ ·) ++ c.options

def toDocument (c : CompileCommand) : Document :=
  .table [
    ("definitions", .list (c.definitions.map .text)),
    ("options", .list (c.options.map .text)),
    ("includePaths", .list (c.includePaths.map .text))]

end CompileCommand

namespace Target

/-- Whether the components of one path are the last ones of the other. -/
def sameTail (a b : String) : Bool :=
  Path.endsWith a.toList b.toList || Path.endsWith b.toList a.toList

/-- Whether the target lists a source. -/
def owns (t : Target) (source : String) : Bool := t.sources.any fun s => sameTail s source

def compileCommand (t : Target) : CompileCommand := ⟨t.definitions, t.options, t.includePaths⟩

def toDocument (t : Target) : Document :=
  let texts (ss : List String) : Document := .list (ss.map .text)
  .table [
    ("name", .text t.name),
    ("type", .text t.kind.key),
    ("sources", texts t.sources),
    ("includePaths", texts t.includePaths),
    ("compileDefinitions", texts t.definitions),
    ("compileOptions", texts t.options),
    ("linkLibraries", texts t.linkLibraries)]

/-- Reads a target. -/
def read {V : Type} {M : Type → Type} [Monad M] [MonadExcept Unit M]
    (f : Document.Format V M) (v : V) : M Target := do
  let r ← f.record ["name", "type", "sources", "includePaths", "compileDefinitions",
    "compileOptions", "linkLibraries"] v
  let texts (name : String) : M (List String) := r.defaulted name [] (f.list f.text)
  let kind (v : V) : M TargetKind := do
    match TargetKind.ofKey? (← f.word v) with
    | some k => pure k
    | none => throw ()
  return {
    name := ← r.required "name" f.text
    kind := ← r.required "type" kind
    sources := ← texts "sources"
    includePaths := ← texts "includePaths"
    definitions := ← texts "compileDefinitions"
    options := ← texts "compileOptions"
    linkLibraries := ← texts "linkLibraries" }

end Target
end DocExamples
