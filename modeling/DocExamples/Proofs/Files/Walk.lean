/-
# Paths of a walk

A walk meets files under their paths from the directory where it starts. To normalize such a path
takes a dot and a slash off its start. That leads to the same file, and nothing more comes off
(`WellFormed.of_mem_walk`), if the path of the directory is plain: no slash and no piece of one dot
follows the first one (`isPlain`). Then different files have different normalized paths
(`WellFormed.nodup_walk`).
-/

import DocExamples.Proofs.Files.Lookup

namespace DocExamples

namespace Path

variable {path : String} {base rel rest : List Char}

/-- Whether a dot and a slash at the start of a path are followed by nothing, or by a component and
not by another slash or another single dot. -/
def isPlain : List Char → Bool
  | '.' :: '/' :: rest => rest.isEmpty || startsWithStep rest
  | _ => true

theorem normalized_cases (path : String) :
    (∃ rest, path.toList = '.' :: '/' :: rest ∧ normalized path = String.ofList rest) ∨
      (∀ rest, path.toList ≠ '.' :: '/' :: rest) ∧ normalized path = path := by
  have hdots : "./".toList = ['.', '/'] := by simp
  rw [normalized, Text.afterText?, hdots]
  cases hrest : Text.after? ['.', '/'] path.toList with
  | some rest => exact Or.inl ⟨rest, Text.after?_eq_some_iff.1 hrest, rfl⟩
  | none =>
      refine Or.inr ⟨fun rest h => ?_, rfl⟩
      rw [Text.after?_eq_some_iff.2 h] at hrest
      cases hrest

theorem length_normalized_lt (h : normalized path ≠ path) :
    (normalized path).length < path.length := by
  obtain ⟨rest, hrest, heq⟩ | ⟨-, heq⟩ := normalized_cases path
  · rw [heq, String.length_ofList, ← String.length_toList, hrest]
    exact Nat.lt_add_of_pos_right Nat.two_pos
  · exact absurd heq h

/-- **Nothing more comes off** a path if a component follows the dot and the slash. -/
theorem normalized_normalized
    (h : ∀ rest, path.toList = '.' :: '/' :: rest → startsWithStep rest = true) :
    normalized (normalized path) = normalized path := by
  obtain ⟨rest, hrest, heq⟩ | ⟨-, heq⟩ := normalized_cases path
  · obtain ⟨more, hmore, -⟩ | ⟨-, hsame⟩ := normalized_cases (normalized path)
    · have hstep := h rest hrest
      rw [heq, String.toList_ofList] at hmore
      rw [hmore] at hstep
      cases hstep
    · exact hsame
  · rw [heq, heq]

/-- In a path that is joined to a plain one, a component follows the dot and the slash. -/
theorem startsWithStep_of_join (hbase : isPlain base = true) (hne : base ≠ [])
    (hrel : startsWithStep rel = true) (h : join base rel = '.' :: '/' :: rest) :
    startsWithStep rest = true := by
  obtain ⟨more, hjoin, hdot, hslash⟩ : ∃ more, join base rel = base ++ more ∧
      (base = ['.'] → more = '/' :: rel) ∧ (base = ['.', '/'] → more = rel) := by
    rw [join, isAbsolute_of_startsWithStep hrel, Bool.false_or, if_neg (by simpa using hne)]
    split
    · next hlast => exact ⟨rel, rfl, (by rintro rfl; cases hlast), fun _ => rfl⟩
    · next hlast => exact ⟨'/' :: rel, rfl, fun _ => rfl, (by rintro rfl; cases hlast rfl)⟩
  rw [hjoin] at h
  obtain ⟨c, base, rfl⟩ := List.exists_cons_of_ne_nil hne
  cases base with
  | nil =>
      -- the slash comes from the joining
      obtain ⟨rfl, rfl⟩ : c = '.' ∧ more = '/' :: rest := by simpa using h
      exact (List.cons.inj (hdot rfl)).2 ▸ hrel
  | cons d base =>
      obtain ⟨rfl, rfl, rfl⟩ : c = '.' ∧ d = '/' ∧ base ++ more = rest := by simpa using h
      obtain hnil | hstep := Bool.or_eq_true_iff.1 hbase
      · obtain rfl := List.isEmpty_iff.1 hnil
        exact hslash rfl ▸ hrel
      · exact startsWithStep_append hstep more

end Path

namespace FileTree

variable {t : FileTree} {p start : Place} {path walked : String} {common : List IgnoreRule}

/-- **A path leads where it did** when it is normalized, if a component follows the dot and the
slash. -/
theorem place?_normalized
    (h : ∀ rest, path.toList = '.' :: '/' :: rest → Path.startsWithStep rest = true) :
    t.place? (Path.normalized path) = t.place? path := by
  obtain ⟨rest, hrest, heq⟩ | ⟨-, heq⟩ := Path.normalized_cases path
  · have hstep := h rest hrest
    have hnil : rest ≠ [] := by
      rintro rfl
      cases hstep
    have hpath : path ≠ "" := by
      rintro rfl
      cases hrest
    have hdot : Text.splitOn '/' ('.' :: '/' :: rest) = ['.'] :: Text.splitOn '/' rest := by
      simp [Text.splitOn]
    rw [heq, place?_eq t (by simpa using hnil), place?_eq t hpath, String.toList_ofList, hrest,
      hdot, follow_cons_of_none rfl (Text.splitOn_ne_nil _ _), origin, origin,
      Path.isAbsolute_of_startsWithStep hstep]
    rfl
  · rw [heq]

/-- Whether a walk from a directory meets a node, and it is a file. -/
def isMet (t : FileTree) (common : List IgnoreRule) (path : String) (start : Place)
    (e : Place × FileNode) : Bool :=
  e.2 != .directory && t.isWalked common path start e.1

/-- A walk from a directory selects files and answers their paths. -/
theorem walk_eq (hstart : t.place? path = some start) (hdirectory : t.isDirectoryAt start = true) :
    t.walk common path = (t.nodes.filter (t.isMet common path start)).map fun e =>
      String.ofList (pathBelow path start e.1) := by
  have hfile : t.isFile path = false := by
    rw [isFile, node?, hstart, Option.bind_some, eq_of_beq hdirectory]
  rw [walk, hstart]
  simp only [hfile, Bool.false_eq_true, if_false]
  generalize t.nodes = nodes
  induction nodes with
  | nil => rfl
  | cons e nodes ih =>
      obtain ⟨p, n⟩ := e
      rw [List.filterMap_cons, List.filter_cons, ih]
      cases n with
      | directory => rfl
      | file bytes executable =>
          cases hwalked : t.isWalked common path start p <;> simp [isMet, hwalked]

/-- What is met below a directory is neither the directory nor outside of it. -/
theorem WellFormed.below_of_isMet (h : t.WellFormed) (hdirectory : t.isDirectoryAt start = true)
    {e : Place × FileNode} (he : e ∈ t.nodes) (hmet : t.isMet common path start e = true) :
    start <+: e.1 ∧ start ≠ e.1 := by
  obtain ⟨hfile, hwalked⟩ := Bool.and_eq_true_iff.1 hmet
  refine ⟨List.isPrefixOf_iff_prefix.1 (Bool.and_eq_true_iff.1 hwalked).1, fun heq => ?_⟩
  have hnode : t.nodeAt? start = some e.2 := h.nodeAt?_eq_some_iff.2 (heq ▸ he)
  rw [isDirectoryAt, hnode] at hdirectory
  rw [Option.some.inj (eq_of_beq hdirectory)] at hfile
  cases hfile

section Plain

variable (h : t.WellFormed) (hplain : Path.isPlain path.toList = true)
  (hstart : t.place? path = some start) (hdirectory : t.isDirectoryAt start = true)
include h hplain hstart hdirectory

/-- The path of a file that is met leads to the file, also when it is normalized, and nothing more
comes off then. -/
theorem WellFormed.place?_of_isMet {e : Place × FileNode} (he : e ∈ t.nodes)
    (hmet : t.isMet common path start e = true) :
    let walked := String.ofList (pathBelow path start e.1)
    t.place? walked = some e.1 ∧ t.place? (Path.normalized walked) = some e.1 ∧
      Path.normalized (Path.normalized walked) = Path.normalized walked := by
  intro walked
  obtain ⟨hbelow, hne⟩ := h.below_of_isMet hdirectory he hmet
  have hplace : t.place? walked = some e.1 :=
    h.place?_pathBelow hstart (List.mem_map_of_mem he) hbelow hne
  have hstep := h.startsWithStep_below (List.mem_map_of_mem he) hbelow hne
  have hpath : path.toList ≠ [] := fun hnil => by
    rw [String.toList_eq_nil_iff.1 hnil] at hstart
    cases hstart
  have hwalked : ∀ rest, walked.toList = '.' :: '/' :: rest → Path.startsWithStep rest = true := by
    rw [String.toList_ofList]
    exact fun rest => Path.startsWithStep_of_join hplain hpath hstep
  exact ⟨hplace, (place?_normalized hwalked).trans hplace, Path.normalized_normalized hwalked⟩

/-- **Every path of a walk** from a plain path of a directory leads to a file, and so does the
normalized path, from which nothing more comes off. -/
theorem WellFormed.of_mem_walk (hwalked : walked ∈ t.walk common path) :
    ∃ p bytes executable, (p, .file bytes executable) ∈ t.nodes ∧ t.place? walked = some p ∧
      t.place? (Path.normalized walked) = some p ∧
      Path.normalized (Path.normalized walked) = Path.normalized walked := by
  rw [walk_eq hstart hdirectory] at hwalked
  obtain ⟨⟨p, n⟩, he, rfl⟩ := List.mem_map.1 hwalked
  obtain ⟨he, hmet⟩ := List.mem_filter.1 he
  cases n with
  | directory => cases (Bool.and_eq_true_iff.1 hmet).1
  | file bytes executable =>
      exact ⟨p, bytes, executable, he, h.place?_of_isMet hplain hstart hdirectory he hmet⟩

/-- **Different files** have different normalized paths. -/
theorem WellFormed.nodup_walk : ((t.walk common path).map Path.normalized).Nodup := by
  rw [walk_eq hstart hdirectory, List.map_map]
  refine (h.distinct.of_map.filter _).map_on fun e he e' he' heq => ?_
  obtain ⟨he, hmet⟩ := List.mem_filter.1 he
  obtain ⟨he', hmet'⟩ := List.mem_filter.1 he'
  obtain ⟨-, hplace, -⟩ := h.place?_of_isMet hplain hstart hdirectory he hmet
  obtain ⟨-, hplace', -⟩ := h.place?_of_isMet hplain hstart hdirectory he' hmet'
  refine List.inj_on_of_nodup_map h.distinct he he' (Option.some.inj ?_)
  rw [Function.comp_apply, Function.comp_apply] at heq
  rw [← hplace, ← hplace', heq]

end Plain

end FileTree
end DocExamples
