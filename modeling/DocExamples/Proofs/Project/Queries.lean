/-
# What the queries of a project list

A query goes through what the targets of the current configuration contribute to it and lists every
item once, where it occurs first (`ListsOnce`). The current configuration is the first one of the
current name, and without one there are no targets (`CurrentTargets`). Each item is passed over if
it has been listed and is listed behind the others if not (`distinct_concat`), and either keeps the
list as it should be (`ListsOnce.concat_of_mem`, `ListsOnce.concat_of_notMem`). The names of headers
are made for the list of sources without repetitions; made for all of them, they come to the same
list (`distinct_flatMap_distinct`).
-/

import DocExamples.Project.Basic
import DocExamples.Proofs.Path
import Mathlib.Data.List.Induction
import Mathlib.Data.List.Nodup

namespace DocExamples

namespace Target

/-- The shared libraries that a target contributes: itself, and those it links. -/
def sharedNames (t : Target) : List String :=
  (if t.kind = .sharedLibrary then [t.name] else []) ++
    t.linkLibraries.filter Project.isSharedObject

/-- The sources of a target, each with the names that its header may have behind it. -/
def sourcesAndHeaders (t : Target) : List String :=
  t.sources.flatMap fun s => s :: Project.headerNames s

end Target

namespace Project

variable {items more listed : List String} {x y : String}

/-- Whether `listed` has each of the items once, in the order in which they occur first. -/
structure ListsOnce (items listed : List String) : Prop where
  nodup : listed.Nodup
  mem_iff : ∀ x, x ∈ listed ↔ x ∈ items
  order : ∀ x ∈ items, ∀ y ∈ items,
    listed.idxOf x < listed.idxOf y ↔ items.idxOf x < items.idxOf y

/-- Whether `held` are the targets that queries look at: those of the first configuration of the
current name, or none if no configuration has that name. -/
inductive CurrentTargets (p : Project) : List Target → Prop
  | first {before after : List BuildConfiguration} {c : BuildConfiguration}
      (hsplit : p.configurations = before ++ c :: after) (hname : c.name = p.current)
      (hbefore : ∀ b ∈ before, b.name ≠ p.current) : CurrentTargets p c.targets
  | missing (hmissing : ∀ c ∈ p.configurations, c.name ≠ p.current) : CurrentTargets p []

/-- Whether the name of a file has the extension of a shared object. -/
def SharedObject (file : String) : Prop :=
  ∃ stem, stem ≠ [] ∧ ∃ e ∈ ["so", "dll", "dylib"],
    Path.fileName? file.toList = some (stem ++ '.' :: e.toList)

/-- Whether `header` is the name with the extension `e` that the header of a source may have: in the
same directory and of the same stem. A source that leads to no file has no other name. -/
def HeaderName (source e header : String) : Prop :=
  Path.Sibling source.toList e.toList header.toList ∨
    Path.fileName? source.toList = none ∧ header = source

/-! ### Listing items once -/

namespace ListsOnce

theorem nil : ListsOnce [] [] := ⟨List.nodup_nil, fun _ => Iff.rfl, by simp⟩

/-- An item that has occurred before is not listed again. -/
theorem concat_of_mem (h : ListsOnce items listed) (hx : x ∈ items) :
    ListsOnce (items ++ [x]) listed := by
  have hmem : ∀ y, y ∈ items ++ [x] ↔ y ∈ items := by simpa using hx
  refine ⟨h.nodup, fun y => (h.mem_iff y).trans (hmem y).symm, fun y hy z hz => ?_⟩
  rw [hmem] at hy hz
  rw [h.order y hy z hz, List.idxOf_append_of_mem hy, List.idxOf_append_of_mem hz]

/-- An item that has not occurred before is listed behind the others. -/
theorem concat_of_notMem (h : ListsOnce items listed) (hx : x ∉ items) :
    ListsOnce (items ++ [x]) (listed ++ [x]) := by
  have hlisted : x ∉ listed := fun hmem => hx ((h.mem_iff x).1 hmem)
  have hnew : (items ++ [x]).idxOf x = items.length ∧ (listed ++ [x]).idxOf x = listed.length := by
    simp [List.idxOf_append_of_notMem, hx, hlisted]
  have hold : ∀ y ∈ items, (items ++ [x]).idxOf y = items.idxOf y ∧
      (listed ++ [x]).idxOf y = listed.idxOf y ∧ items.idxOf y < items.length ∧
      listed.idxOf y < listed.length := fun y hy =>
    have hy' : y ∈ listed := (h.mem_iff y).2 hy
    ⟨List.idxOf_append_of_mem hy, List.idxOf_append_of_mem hy', List.idxOf_lt_length_iff.2 hy,
      List.idxOf_lt_length_iff.2 hy'⟩
  refine ⟨?_, fun y => ?_, fun y hy z hz => ?_⟩
  · rw [← List.concat_eq_append]
    exact h.nodup.concat hlisted
  · rw [List.mem_append, List.mem_append, h.mem_iff]
  · rw [List.mem_append, List.mem_singleton] at hy hz
    obtain hy | rfl := hy <;> obtain hz | rfl := hz
    · rw [(hold y hy).1, (hold y hy).2.1, (hold z hz).1, (hold z hz).2.1, h.order y hy z hz]
    · have := hold y hy
      omega
    · have := hold z hz
      omega
    · omega

end ListsOnce

/-- One step of leaving out repetitions. -/
theorem distinct_concat (items : List String) (x : String) : distinct (items ++ [x]) =
    if x ∈ distinct items then distinct items else distinct items ++ [x] := by
  simp only [distinct, List.foldl_append, List.foldl_cons, List.foldl_nil, List.mem_reverse,
    List.contains_iff_mem]
  split <;> simp

/-- **Leaving out repetitions** lists every item once, where it occurs first. -/
theorem listsOnce_distinct (items : List String) : ListsOnce items (distinct items) := by
  induction items using List.reverseRecOn with
  | nil => exact .nil
  | append_singleton items x ih =>
      rw [distinct_concat]
      split_ifs with hx
      · exact ih.concat_of_mem ((ih.mem_iff x).1 hx)
      · exact ih.concat_of_notMem fun hmem => hx ((ih.mem_iff x).2 hmem)

theorem mem_distinct : x ∈ distinct items ↔ x ∈ items := (listsOnce_distinct items).mem_iff x

/-- Items that have all occurred before are not listed again. -/
theorem distinct_append_of_subset (h : more ⊆ items) :
    distinct (items ++ more) = distinct items := by
  induction more using List.reverseRecOn with
  | nil => rw [List.append_nil]
  | append_singleton more x ih =>
      obtain ⟨hmore, hx⟩ := List.append_subset.1 h
      have hmem : x ∈ distinct (items ++ more) :=
        mem_distinct.2 (List.mem_append_left _ (hx List.mem_cons_self))
      rw [← List.append_assoc, distinct_concat, if_pos hmem, ih hmore]

/-- What is listed of further items depends on what has been listed so far. -/
theorem distinct_append_congr {items' : List String} (h : distinct items = distinct items')
    (more : List String) : distinct (items ++ more) = distinct (items' ++ more) := by
  induction more using List.reverseRecOn with
  | nil => rwa [List.append_nil, List.append_nil]
  | append_singleton more x ih =>
      rw [← List.append_assoc, ← List.append_assoc, distinct_concat, distinct_concat, ih]

/-- **Leaving out repetitions first** changes nothing of what the items lead to. -/
theorem distinct_flatMap_distinct (f : String → List String) (items : List String) :
    distinct ((distinct items).flatMap f) = distinct (items.flatMap f) := by
  induction items using List.reverseRecOn with
  | nil => rfl
  | append_singleton items x ih =>
      rw [List.flatMap_append, List.flatMap_singleton, distinct_concat]
      split_ifs with hx
      · have hsubset : f x ⊆ items.flatMap f := fun y hy =>
          List.mem_flatMap.2 ⟨x, mem_distinct.1 hx, hy⟩
        rw [distinct_append_of_subset hsubset, ih]
      · rw [List.flatMap_append, List.flatMap_singleton, distinct_append_congr ih]

/-! ### Queries -/

/-- **The current targets** are those that the queries go through, and no others are. -/
theorem currentTargets_iff {p : Project} {held : List Target} :
    p.CurrentTargets held ↔ p.targets = held := by
  constructor
  · rintro (⟨hsplit, hname, hbefore⟩ | hmissing)
    · have hfind : p.configuration? p.current = some _ :=
        List.find?_eq_some_iff_append.2 ⟨by simpa using hname, _, _, hsplit, by simpa using hbefore⟩
      rw [targets, hfind, Option.map_some, Option.getD_some]
    · have hfind : p.configuration? p.current = none :=
        List.find?_eq_none.2 (by simpa using hmissing)
      rw [targets, hfind, Option.map_none, Option.getD_none]
  · rintro rfl
    cases hfind : p.configuration? p.current with
    | none =>
        rw [targets, hfind, Option.map_none, Option.getD_none]
        exact .missing (by simpa using List.find?_eq_none.1 hfind)
    | some c =>
        obtain ⟨hname, before, after, hsplit, hbefore⟩ := List.find?_eq_some_iff_append.1 hfind
        rw [targets, hfind, Option.map_some, Option.getD_some]
        exact .first hsplit (by simpa using hname) (by simpa using hbefore)

theorem isSharedObject_iff : isSharedObject x = true ↔ SharedObject x := by
  have hdot : ∀ e ∈ ["so", "dll", "dylib"], '.' ∉ e.toList := by decide
  unfold isSharedObject
  constructor
  · split
    · next e he =>
        intro h
        obtain ⟨stem, hne, -, hname⟩ := Path.extension?_eq_some_iff.1 he
        exact ⟨stem, hne, String.ofList e, List.contains_iff_mem.1 h, by simpa using hname⟩
    · simp
  · rintro ⟨stem, hne, e, he, hname⟩
    rw [Path.extension?_eq_some_iff.2 ⟨stem, hne, hdot e he, hname⟩]
    simpa using he

theorem sharedLibraries_eq (p : Project) :
    p.sharedLibraries = distinct (p.targets.flatMap Target.sharedNames) := by
  simp only [sharedLibraries, beq_iff_eq]
  rfl

/-- The list of sources may have its repetitions when the headers are asked for. -/
theorem sourcesAndHeaders_eq (p : Project) :
    p.sourcesAndHeaders = distinct (p.targets.flatMap Target.sourcesAndHeaders) := by
  rw [sourcesAndHeaders, sources, distinct_flatMap_distinct, List.flatMap_assoc]
  rfl

/-- The names that a header may have are those of the four extensions. -/
theorem forall₂_headerNames (source : String) :
    List.Forall₂ (HeaderName source) ["h", "hpp", "hxx", "h++"] (headerNames source) := by
  have hext : ∀ e ∈ ["h", "hpp", "hxx", "h++"],
      '/' ∉ e.toList ∧ '.' ∉ e.toList ∧ e.toList ≠ [] := by decide
  rw [headerNames, List.forall₂_map_right_iff, List.forall₂_same]
  intro e he
  obtain ⟨hslash, hdot, hne⟩ := hext e he
  rw [HeaderName, String.toList_ofList]
  cases hname : Path.fileName? source.toList with
  | none => exact .inr ⟨rfl, by rw [Path.withExtension_of_none hname, String.ofList_toList]⟩
  | some name => exact .inl (.withExtension hname hslash hdot hne)

/-- A slash at the end does not count, and only the last extension is replaced. -/
example : headerNames "src/a.tar.gz/" =
    ["src/a.tar.h", "src/a.tar.hpp", "src/a.tar.hxx", "src/a.tar.h++"] := by
  decide +kernel

/-- **Every query lists each item once, where it occurs first.** With the targets of the first
configuration of the current name in their order, and with none if there is no such configuration,
the items are their sources; their include paths; the names of those that are shared libraries, and
the shared objects that they link; their sources, each with the names of the four extensions that
its header may have behind it. -/
theorem listsOnce_queries (p : Project) :
    ∃ held, p.CurrentTargets held ∧
      ListsOnce (held.flatMap (·.sources)) p.sources ∧
      ListsOnce (held.flatMap (·.includePaths)) p.includePaths ∧
      ListsOnce (held.flatMap Target.sharedNames) p.sharedLibraries ∧
      ListsOnce (held.flatMap Target.sourcesAndHeaders) p.sourcesAndHeaders ∧
      (∀ x, x ∈ p.sources ↔ ∃ t ∈ held, x ∈ t.sources) ∧
      (∀ x, x ∈ p.includePaths ↔ ∃ t ∈ held, x ∈ t.includePaths) ∧
      (∀ x, x ∈ p.sharedLibraries ↔ ∃ t ∈ held,
        t.kind = .sharedLibrary ∧ x = t.name ∨ x ∈ t.linkLibraries ∧ SharedObject x) ∧
      (∀ x, x ∈ p.sourcesAndHeaders ↔ ∃ t ∈ held, ∃ s ∈ t.sources,
        x = s ∨ x ∈ headerNames s) ∧
      ∀ s, List.Forall₂ (HeaderName s) ["h", "hpp", "hxx", "h++"] (headerNames s) := by
  have hshared := p.sharedLibraries_eq ▸ listsOnce_distinct (p.targets.flatMap Target.sharedNames)
  have hboth := p.sourcesAndHeaders_eq ▸
    listsOnce_distinct (p.targets.flatMap Target.sourcesAndHeaders)
  refine ⟨p.targets, currentTargets_iff.2 rfl, listsOnce_distinct _, listsOnce_distinct _, hshared,
    hboth, fun x => ?_, fun x => ?_, fun x => ?_, fun x => ?_, forall₂_headerNames⟩
  · rw [sources, mem_distinct, List.mem_flatMap]
  · rw [includePaths, mem_distinct, List.mem_flatMap]
  · rw [hshared.mem_iff, List.mem_flatMap]
    refine exists_congr fun t => and_congr_right fun _ => ?_
    rw [Target.sharedNames, List.mem_append, List.mem_filter, isSharedObject_iff]
    by_cases hkind : t.kind = .sharedLibrary <;> simp [hkind]
  · rw [hboth.mem_iff, List.mem_flatMap]
    refine exists_congr fun t => and_congr_right fun _ => ?_
    simp only [Target.sourcesAndHeaders, List.mem_flatMap, List.mem_cons]

/-- The second of three configurations is current. Its targets share a source, which has a header
that is a source of its own, and a directory; one of them is a shared library, the other links
one. -/
theorem listsOnce_queries_two_targets :
    let app : Target := { name := "app", kind := .executable, sources := ["a.c", "b.c"]
                          includePaths := ["include"], linkLibraries := ["libm.so", "pthread"] }
    let core : Target := { name := "core", kind := .sharedLibrary, sources := ["b.h", "b.c"]
                           includePaths := ["src", "include"] }
    let p : Project := { name := "demo", current := "Debug", configurations := [
      { name := "Release", targets := [core] }, { name := "Debug", targets := [app, core] },
      { name := "Debug", targets := [] }] }
    p.CurrentTargets [app, core] ∧
      p.sources = ["a.c", "b.c", "b.h"] ∧
      ListsOnce ["a.c", "b.c", "b.h", "b.c"] p.sources ∧
      p.includePaths = ["include", "src"] ∧
      ListsOnce ["include", "src", "include"] p.includePaths ∧
      p.sharedLibraries = ["libm.so", "core"] ∧
      ListsOnce ["libm.so", "core"] p.sharedLibraries ∧
      p.sourcesAndHeaders = ["a.c", "a.h", "a.hpp", "a.hxx", "a.h++",
        "b.c", "b.h", "b.hpp", "b.hxx", "b.h++"] := by
  intro app core p
  have hcurrent : p.targets = [app, core] := by decide +kernel
  obtain ⟨held, hheld, hsources, hpaths, hshared, -⟩ := listsOnce_queries p
  obtain rfl : [app, core] = held := hcurrent.symm.trans (currentTargets_iff.1 hheld)
  have hnames : [app, core].flatMap Target.sharedNames = ["libm.so", "core"] := by decide +kernel
  exact ⟨hheld, by decide +kernel, hsources, by decide +kernel, hpaths, by decide +kernel,
    hnames ▸ hshared, by decide +kernel⟩

end Project
end DocExamples
