/-
# The target that a source is compiled for

A target lists a source if one of its own paths has the same components. It owns a source already if
the components of one of the two paths are the last ones of the other. A source is compiled with the
flags of the first target that owns it: that is the first one that lists it, unless a target before
that one owns the source without listing it (`targetOf?_of_lists`), which can happen
(`compiled_for_other_target`).
-/

import DocExamples.Run.Compile
import Mathlib.Data.List.Infix

namespace DocExamples

namespace Target

variable {t : Target} {source : String}

/-- Whether a path of the target has the same components as a source. -/
def Lists (t : Target) (source : String) : Prop :=
  ∃ s ∈ t.sources, Path.components s.toList = Path.components source.toList

/-- Whether a path of the target ends in a source, or the source in it. -/
def Owns (t : Target) (source : String) : Prop :=
  ∃ s ∈ t.sources, Path.components s.toList <:+ Path.components source.toList ∨
    Path.components source.toList <:+ Path.components s.toList

instance (t : Target) (source : String) : Decidable (t.Lists source) :=
  inferInstanceAs (Decidable (∃ s ∈ t.sources, _ = _))

instance (t : Target) (source : String) : Decidable (t.Owns source) :=
  inferInstanceAs (Decidable (∃ s ∈ t.sources, _ ∨ _))

theorem owns_iff : t.owns source = true ↔ t.Owns source := by
  simp only [owns, sameTail, Path.endsWith, List.any_eq_true, Bool.or_eq_true,
    List.isSuffixOf_iff_suffix, Owns, or_comm]

theorem Lists.owns (h : t.Lists source) : t.Owns source := by
  obtain ⟨s, hs, heq⟩ := h
  exact ⟨s, hs, Or.inl (heq ▸ List.suffix_rfl)⟩

end Target

namespace Project

variable {p : Project} {t : Target} {source : String}

/-- **The owner of a source** is the first target that owns it. -/
theorem targetOf?_eq_some_iff : p.targetOf? source = some t ↔
    ∃ before after, p.targets = before ++ t :: after ∧ t.Owns source ∧
      ∀ u ∈ before, ¬ u.Owns source := by
  rw [targetOf?, List.find?_eq_some_iff_append]
  simp only [Target.owns_iff, Bool.not_eq_true', ← Bool.not_eq_true]
  tauto

/-- A target before another one owns the source only if the owner is before it too. -/
theorem mem_of_targetOf? {u : Target} {before after : List Target}
    (hsplit : p.targets = before ++ t :: after) (hu : p.targetOf? source = some u)
    (hbefore : ∃ v ∈ before, v.Owns source) : u ∈ before := by
  obtain ⟨v, hv, howns⟩ := hbefore
  have hsome : (before.find? (·.owns source)).isSome :=
    List.find?_isSome.2 ⟨v, hv, Target.owns_iff.2 howns⟩
  obtain ⟨w, hw⟩ := Option.isSome_iff_exists.1 hsome
  rw [targetOf?, hsplit, List.find?_append, hw, Option.some_or, Option.some.injEq] at hu
  exact hu ▸ List.mem_of_find?_eq_some hw

theorem flagsFor_of_targetOf? (h : p.targetOf? source = some t) {c : Compiler}
    (hc : c.project = some p) :
    c.flagsFor source = c.config.flags ++ t.compileCommand.arguments := by
  rw [Compiler.flagsFor, hc, Option.bind_some, compileCommand?, h]
  rfl

theorem exists_first_lister (h : ∃ t ∈ p.targets, t.Lists source) :
    ∃ before t after, p.targets = before ++ t :: after ∧ t.Lists source ∧
      ∀ v ∈ before, ¬ v.Lists source := by
  have hsome : (p.targets.find? fun t => decide (t.Lists source)).isSome := by simpa using h
  obtain ⟨t, ht⟩ := Option.isSome_iff_exists.1 hsome
  obtain ⟨hlists, before, after, hsplit, hbefore⟩ := List.find?_eq_some_iff_append.1 ht
  exact ⟨before, t, after, hsplit, of_decide_eq_true hlists, by simpa using hbefore⟩

/-- **The target that a listed source is compiled for.** If some target lists a source, the source
gets the flags of the first target that owns it. With `t` as the first one that lists it, this is a
target that lists it if and only if no target before `t` owns it, and then it is `t`. -/
theorem targetOf?_of_lists (h : ∃ t ∈ p.targets, t.Lists source) :
    ∃ before t after, p.targets = before ++ t :: after ∧ t.Lists source ∧
      (∀ v ∈ before, ¬ v.Lists source) ∧
      ∃ u, p.targetOf? source = some u ∧
        p.compileCommand? source = some u.compileCommand ∧
        (∀ c : Compiler, c.project = some p →
          c.flagsFor source = c.config.flags ++ u.compileCommand.arguments) ∧
        (∃ first rest, p.targets = first ++ u :: rest ∧ u.Owns source ∧
          ∀ v ∈ first, ¬ v.Owns source) ∧
        (u.Lists source ↔ ∀ v ∈ before, ¬ v.Owns source) ∧
        (u.Lists source → u = t) := by
  obtain ⟨before, t, after, hsplit, ht, hbefore⟩ := exists_first_lister h
  have hsome : (p.targetOf? source).isSome := by
    refine List.find?_isSome.2 ⟨t, ?_, Target.owns_iff.2 ht.owns⟩
    exact hsplit ▸ List.mem_append_right _ List.mem_cons_self
  obtain ⟨u, hu⟩ := Option.isSome_iff_exists.1 hsome
  have hnone : u.Lists source → ∀ v ∈ before, ¬ v.Owns source := fun hlists v hv howns =>
    hbefore u (mem_of_targetOf? hsplit hu ⟨v, hv, howns⟩) hlists
  have heq : (∀ v ∈ before, ¬ v.Owns source) → u = t := fun hnone =>
    Option.some.inj (hu.symm.trans
      (targetOf?_eq_some_iff.2 ⟨before, after, hsplit, ht.owns, hnone⟩))
  refine ⟨before, t, after, hsplit, ht, hbefore, u, hu, ?_, fun c => flagsFor_of_targetOf? hu,
    targetOf?_eq_some_iff.1 hu, ⟨hnone, fun h => heq h ▸ ht⟩, fun h => heq (hnone h)⟩
  rw [compileCommand?, hu, Option.map_some]

/-- The hypothesis of `targetOf?_of_lists` is satisfiable: a target before the one that lists the
source has a file of the same name in another directory. -/
theorem targetOf?_of_lists_same_name :
    let tests : Target :=
      { name := "tests", kind := .executable, sources := ["tests/a.cpp"], options := ["-O0"] }
    let lib : Target :=
      { name := "lib", kind := .staticLibrary, sources := ["src/a.cpp"], options := ["-O2"] }
    let p : Project :=
      { name := "demo", configurations := [{ name := "Debug", targets := [tests, lib] }] }
    (∃ t ∈ p.targets, t.Lists "src//a.cpp") ∧ p.targetOf? "src//a.cpp" = some lib := by
  intro tests lib p
  have h : ∃ t ∈ p.targets, t.Lists "src//a.cpp" := by decide +kernel
  have howns : ∀ v ∈ p.targets, ¬ v.Lists "src//a.cpp" → ¬ v.Owns "src//a.cpp" := by
    decide +kernel
  have hlib : ∀ v ∈ p.targets, v.Lists "src//a.cpp" → v = lib := by decide +kernel
  obtain ⟨before, t, after, hsplit, -, hbefore, u, hu, -, -, ⟨first, rest, hmem, -⟩, hiff, -⟩ :=
    targetOf?_of_lists h
  have hlists : u.Lists "src//a.cpp" := hiff.2 fun v hv =>
    howns v (hsplit ▸ List.mem_append_left _ hv) (hbefore v hv)
  exact ⟨h, hlib u (hmem ▸ List.mem_append_right _ List.mem_cons_self) hlists ▸ hu⟩

/-- **A listed source compiled for another target.** A target before the one that lists the source
has a file of the same name on top, whose path the path of the source ends with. -/
theorem compiled_for_other_target :
    let app : Target :=
      { name := "app", kind := .executable, sources := ["a.cpp"], options := ["-O0"] }
    let lib : Target :=
      { name := "lib", kind := .staticLibrary, sources := ["src/a.cpp"], options := ["-O2"] }
    let p : Project :=
      { name := "demo", configurations := [{ name := "Debug", targets := [app, lib] }] }
    lib ∈ p.targets ∧ lib.Lists "src/a.cpp" ∧ p.targetOf? "src/a.cpp" = some app ∧
      ¬ app.Lists "src/a.cpp" ∧
      (p.compileCommand? "src/a.cpp").map (·.arguments) = some ["-O0"] := by
  decide +kernel

end Project
end DocExamples
