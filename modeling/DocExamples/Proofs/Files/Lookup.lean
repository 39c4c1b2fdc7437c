/-
# Following paths

In a well-formed tree places are distinct, every node is in a directory, and the names in its place
are pieces of paths (`WellFormed`). Paths are followed piece by piece, from the root or from the
working directory (`place?_eq`), so a path that is joined to the path of a directory is followed
from there (`place?_join`), and the path under which a walk meets a node leads to that node
(`place?_pathBelow`).
-/

import DocExamples.Files.Ignore
import DocExamples.Proofs.KeyedList
import DocExamples.Proofs.Text.Fields
import Mathlib.Data.List.Infix
import Mathlib.Data.Nat.Notation

namespace DocExamples

namespace Path

variable {rel piece : List Char} {pieces : List (List Char)}

/-- Whether a path starts with a component other than the root and the single dot. -/
def startsWithStep : List Char → Bool
  | [] | '/' :: _ | ['.'] | '.' :: '/' :: _ => false
  | _ => true

theorem startsWithStep_of_splitOn (h : Text.splitOn '/' rel = piece :: pieces)
    (hpiece : component? piece ≠ none) : startsWithStep rel = true := by
  unfold startsWithStep
  split
  case h_5 => rfl
  all_goals
    simp only [Text.splitOn, if_true, Char.reduceEq, if_false] at h
    obtain ⟨rfl, -⟩ := List.cons.inj h
    exact absurd rfl hpiece

theorem startsWithStep_append (h : startsWithStep rel = true) (more : List Char) :
    startsWithStep (rel ++ more) = true := by
  unfold startsWithStep at h
  split at h
  case h_5 hnil hslash hdot hdots =>
      obtain ⟨c, rel, rfl⟩ := List.exists_cons_of_ne_nil hnil
      cases rel <;> simp_all [startsWithStep]
  all_goals cases h

theorem isAbsolute_of_startsWithStep (h : startsWithStep rel = true) : isAbsolute rel = false := by
  refine eq_false_of_ne_true fun habs => ?_
  obtain ⟨more, rfl⟩ := List.head?_eq_some_iff.1 (eq_of_beq habs)
  cases h

end Path

/-- Whether a node is a directory or the file of a text. -/
def FileNode.isText : FileNode → Bool
  | .directory => true
  | .file bytes _ => (Text.decode? bytes).isSome

namespace FileTree

variable {t : FileTree} {p q start : Place} {n : FileNode} {names : List String}
  {path : String} {piece rest rel : List Char} {pieces : List (List Char)}

/-- Whether a text is the name of a file: a path of one piece, and neither a dot nor two. -/
def IsName (name : String) : Prop :=
  '/' ∉ name.toList ∧ Path.component? name.toList = some (.normal name.toList)

instance (name : String) : Decidable (IsName name) := inferInstanceAs (Decidable (_ ∧ _))

/-- Whether a tree is one of files that are in directories. -/
structure WellFormed (t : FileTree) : Prop where
  distinct : (t.nodes.map Prod.fst).Nodup
  /-- The root counts as lying in itself. -/
  inDirectory : ∀ p ∈ t.nodes.map Prod.fst, t.isDirectoryAt p.dropLast = true
  named : ∀ p ∈ t.nodes.map Prod.fst, ∀ name ∈ p, IsName name

theorem mem_of_nodeAt? (h : t.nodeAt? p = some n) : (p, n) ∈ t.nodes := by
  obtain ⟨⟨q, m⟩, hfind, rfl⟩ := Option.map_eq_some_iff.1 h
  obtain rfl : q = p := by simpa using List.find?_some hfind
  exact List.mem_of_find?_eq_some hfind

theorem mem_places_of_isDirectoryAt (h : t.isDirectoryAt p = true) : p ∈ t.nodes.map Prod.fst :=
  List.mem_map_of_mem (mem_of_nodeAt? (eq_of_beq h))

theorem WellFormed.nodeAt?_eq_some_iff (h : t.WellFormed) :
    t.nodeAt? p = some n ↔ (p, n) ∈ t.nodes := by
  refine ⟨mem_of_nodeAt?, fun hmem => ?_⟩
  rw [nodeAt?, (Keyed.find?_eq_some_iff h.distinct).2 ⟨hmem, rfl⟩, Option.map_some]

/-- Everything on the way to a node is a directory. -/
theorem WellFormed.isDirectoryAt_of_prefix (h : t.WellFormed) (hp : p ∈ t.nodes.map Prod.fst)
    (hq : q <+: p) (hne : q ≠ p) : t.isDirectoryAt q = true := by
  induction p using List.reverseRecOn with
  | nil => exact absurd (List.prefix_nil.1 hq) hne
  | append_singleton p name ih =>
      have hdirectory : t.isDirectoryAt p = true := by simpa using h.inDirectory _ hp
      obtain heq | hq := List.prefix_concat_iff.1 hq
      · exact absurd heq hne
      · by_cases hqp : q = p
        · exact hqp ▸ hdirectory
        · exact ih (mem_places_of_isDirectoryAt hdirectory) hq hqp

/-! ### Pieces -/

theorem follow_append (t : FileTree) (p : Place) (pieces more : List (List Char)) :
    t.follow p (pieces ++ more) = (t.follow p pieces).bind fun q => t.follow q more := by
  induction pieces generalizing p with
  | nil => rfl
  | cons piece pieces ih =>
      rw [List.cons_append, follow, follow]
      cases t.isDirectoryAt p with
      | false => rfl
      | true =>
          cases Path.component? piece with
          | none => exact ih p
          | some component => cases component <;> exact ih _

/-- A piece that is no component leads nowhere. -/
theorem follow_cons_of_none (h : Path.component? piece = none) (hne : pieces ≠ []) :
    t.follow p (piece :: pieces) = t.follow p pieces := by
  obtain ⟨next, more, rfl⟩ := List.exists_cons_of_ne_nil hne
  simp only [follow, h]
  cases t.isDirectoryAt p <;> rfl

/-- An empty piece at the end leads nowhere. -/
theorem eq_of_follow_nil (h : t.follow p [[]] = some q) : p = q := by
  rw [follow] at h
  split at h
  · cases h
  · exact Option.some.inj h

/-- Names lead down from directory to directory. -/
theorem follow_names (hnames : ∀ name ∈ names, IsName name)
    (hdirectory : ∀ q, p <+: q → q <+: p ++ names → q ≠ p ++ names → t.isDirectoryAt q = true) :
    t.follow p (names.map String.toList) = some (p ++ names) := by
  induction names generalizing p with
  | nil => simp [follow]
  | cons name names ih =>
      obtain ⟨⟨-, hname⟩, hnames⟩ := List.forall_mem_cons.1 hnames
      have happend : p ++ name :: names = (p ++ [name]) ++ names := by simp
      have hp : t.isDirectoryAt p = true :=
        hdirectory p (List.prefix_refl p) (List.prefix_append p _) (by simp)
      simp only [List.map_cons, follow, hp, hname, String.ofList_toList, happend]
      exact ih hnames fun q hpq hq hne =>
        hdirectory q ((List.prefix_append p _).trans hpq) (happend ▸ hq) (happend ▸ hne)

/-! ### Paths -/

/-- Where a path starts. -/
def origin (t : FileTree) (path : List Char) : Place :=
  if Path.isAbsolute path then [] else t.workingDirectory

/-- **Looking a path up** is to follow its pieces, empty ones included. -/
theorem place?_eq (t : FileTree) (h : path ≠ "") :
    t.place? path = t.follow (t.origin path.toList) (Text.splitOn '/' path.toList) := by
  unfold place? origin
  split
  · next hnil => exact absurd (String.toList_eq_nil_iff.1 hnil) h
  · next rest hroot =>
      rw [hroot, Text.splitOn, if_pos rfl, follow_cons_of_none rfl (Text.splitOn_ne_nil _ _)]
      rfl
  · next hnil hroot =>
      rw [if_neg]
      intro habs
      obtain ⟨rest, hrest⟩ := List.head?_eq_some_iff.1 (eq_of_beq habs)
      exact hroot rest hrest

/-- **A path that is joined** to the path of a directory is followed from there. -/
theorem place?_join (h : t.place? path = some start) (hrel : Path.isAbsolute rel = false) :
    t.place? (String.ofList (Path.join path.toList rel)) =
      t.follow start (Text.splitOn '/' rel) := by
  have hne : path ≠ "" := by
    rintro rfl
    cases h
  have hlist : path.toList ≠ [] := fun he => hne (String.toList_eq_nil_iff.1 he)
  rw [place?_eq t hne] at h
  have horigin : ∀ more, t.origin (path.toList ++ more) = t.origin path.toList := fun more => by
    rw [origin, origin, Path.isAbsolute, Path.isAbsolute, List.head?_append_of_ne_nil _ hlist]
  rw [Path.join, hrel, Bool.false_or, if_neg (by simpa using hlist)]
  split
  · -- the slash at the end only adds an empty piece
    next hslash =>
      obtain ⟨base, hbase⟩ := List.getLast?_eq_some_iff.1 (eq_of_beq hslash)
      have hstart : t.follow (t.origin path.toList) (Text.splitOn '/' base) = some start := by
        rw [hbase, Text.splitOn_append, ← hbase, follow_append] at h
        obtain ⟨q, hq, hlast⟩ := Option.bind_eq_some_iff.1 h
        exact hq.trans (congrArg some (eq_of_follow_nil hlast))
      rw [place?_eq t (by simp [hne]), String.toList_ofList, horigin, hbase, List.append_assoc,
        List.singleton_append, Text.splitOn_append, ← hbase, follow_append, hstart]
      rfl
  · rw [place?_eq t (by simp), String.toList_ofList, horigin, Text.splitOn_append, follow_append, h]
    rfl

/-- The pieces of names that are joined are the names. -/
theorem splitOn_names (hnames : ∀ name ∈ names, IsName name) (hne : names ≠ []) :
    Text.splitOn '/' ("/".intercalate names).toList = names.map String.toList := by
  rw [String.toList_intercalate]
  exact Text.splitOn_intercalate (by simpa using hne)
    (List.forall_mem_map.2 fun name hname => (hnames name hname).1)

theorem startsWithStep_names (hnames : ∀ name ∈ names, IsName name) (hne : names ≠ []) :
    Path.startsWithStep ("/".intercalate names).toList = true := by
  obtain ⟨name, names, rfl⟩ := List.exists_cons_of_ne_nil hne
  refine Path.startsWithStep_of_splitOn (splitOn_names hnames hne) ?_
  rw [(hnames name List.mem_cons_self).2]
  exact Option.some_ne_none _

/-- What leads from a directory to a node below it starts with a name. -/
theorem WellFormed.startsWithStep_below (h : t.WellFormed) (hp : p ∈ t.nodes.map Prod.fst)
    (hbelow : start <+: p) (hne : start ≠ p) :
    Path.startsWithStep ("/".intercalate (p.drop start.length)).toList = true := by
  obtain ⟨names, rfl⟩ := hbelow
  rw [List.drop_left]
  exact startsWithStep_names (fun name hname => h.named _ hp name (List.mem_append_right _ hname))
    (by rintro rfl; simp at hne)

/-- **The path of a node below a directory** leads to the node. -/
theorem WellFormed.place?_pathBelow (h : t.WellFormed) (hstart : t.place? path = some start)
    (hp : p ∈ t.nodes.map Prod.fst) (hbelow : start <+: p) (hne : start ≠ p) :
    t.place? (String.ofList (pathBelow path start p)) = some p := by
  have hstep := h.startsWithStep_below hp hbelow hne
  rw [pathBelow, place?_join hstart (Path.isAbsolute_of_startsWithStep hstep)]
  obtain ⟨names, rfl⟩ := hbelow
  have hnames : ∀ name ∈ names, IsName name := fun name hname =>
    h.named _ hp name (List.mem_append_right _ hname)
  rw [List.drop_left, splitOn_names hnames (by rintro rfl; simp at hne)]
  exact follow_names hnames fun q hq hqp hne => h.isDirectoryAt_of_prefix hp hqp hne

/-! ### Files -/

theorem WellFormed.isFile {bytes : List UInt8} {executable : Bool} (h : t.WellFormed)
    (hplace : t.place? path = some p) (hfile : (p, .file bytes executable) ∈ t.nodes) :
    t.isFile path = true := by
  rw [FileTree.isFile, node?, hplace, Option.bind_some, h.nodeAt?_eq_some_iff.2 hfile]

theorem isFile_of_readText {text : String} (h : t.readText path = .ok text) :
    t.isFile path = true := by
  unfold readText at h
  unfold isFile
  split at h
  · cases h
  · cases h
  · next hnode => rw [hnode]

/-- A file can be read if all files are texts. -/
theorem exists_readText (h : ∀ e ∈ t.nodes, e.2.isText = true) (hfile : t.isFile path = true) :
    ∃ text, t.readText path = .ok text := by
  unfold isFile at hfile
  split at hfile
  · next bytes executable hnode =>
      obtain ⟨p, -, hp⟩ := Option.bind_eq_some_iff.1 hnode
      obtain ⟨cs, hcs⟩ := Option.isSome_iff_exists.1 (h _ (mem_of_nodeAt? hp))
      refine ⟨String.ofList cs, ?_⟩
      rw [readText, hnode]
      dsimp only
      rw [hcs]
  · cases hfile

end FileTree
end DocExamples
