/-
# Tracefiles written and read

What is written for a file is a list of records (`fileEntries`), and reading takes them in one by
one: the records of a file rebuild it from its path (`foldl_record`), and the files come out under
their paths (`read_write`). A tracefile has no room for everything a `FileCoverage` could hold; what
it has room for is `Portable`, and every file that is read is (`portable_of_read`). So reading,
writing and reading again changes nothing.
-/

import DocExamples.Proofs.Coverage.Entry
import DocExamples.Proofs.Keyed

namespace DocExamples

open Text

/-- Whether a tracefile has room for all that is known of a file: the path and the names of the
functions are one line, a function was executed if it has hits, and a branch has one outcome. -/
structure FileCoverage.Portable (f : FileCoverage) : Prop where
  path : OneLine f.path.toList
  functions : ∀ (name : String) (fn : FunctionHits), f.functions[name]? = some fn →
    OneLine name.toList ∧ fn.executed = decide (fn.hits > 0)
  branches : ∀ (id : BranchId) (b : BranchHits), f.branches[id]? = some b → b.total = 1

namespace Tracefile

variable {f : FileCoverage} {fs : List FileCoverage} {e : Entry} {es : List Entry} {p : Progress}

/-! ### The records that are written -/

/-- The records written for a file after its path. -/
def recordEntries (f : FileCoverage) : List Entry :=
  f.functions.toList.flatMap (fun (name, fn) => [.function fn.line name, .calls fn.hits name]) ++
  f.lines.toList.map (fun (n, hits) => .line n hits) ++
  f.branches.toList.map (fun (id, b) => .branch id b.taken) ++
  [.other]

/-- The records written for a file. -/
def fileEntries (f : FileCoverage) : List Entry := .file f.path :: recordEntries f

theorem fileLines_eq (f : FileCoverage) : fileLines f = (fileEntries f).map Entry.text := by
  simp [fileLines, fileEntries, recordEntries, List.map_flatMap, Entry.text, Function.comp_def]

theorem named_of_mem_fileEntries (hf : f.Portable) (he : e ∈ fileEntries f) : e.Named := by
  simp only [fileEntries, recordEntries, List.mem_cons, List.mem_append, List.mem_flatMap,
    List.mem_map, Prod.exists, Std.ExtTreeMap.mem_toList_iff_getElem?_eq_some] at he
  obtain rfl | ((⟨name, fn, hfn, rfl | rfl | h⟩ | ⟨n, hits, -, rfl⟩) | ⟨id, b, -, rfl⟩) | rfl | h :=
    he
  · exact hf.path
  · exact (hf.functions name fn hfn).1
  · exact (hf.functions name fn hfn).1
  · cases h
  · trivial
  · trivial
  · trivial
  · cases h

theorem entries_write (hfs : ∀ f ∈ fs, f.Portable) :
    entries (write fs) = fs.flatMap fileEntries := by
  have hlines : (write fs).toList =
      ((fs.flatMap fileEntries).map (·.text.toList)).flatMap (· ++ ['\n']) := by
    simp [write, fileLines_eq, List.map_flatMap, List.flatMap_map, List.flatMap_assoc]
  have hone : ∀ e ∈ fs.flatMap fileEntries, OneLine e.text.toList := by
    intro e he
    obtain ⟨f, hf, he⟩ := List.mem_flatMap.1 he
    exact oneLine_text (named_of_mem_fileEntries (hfs f hf) he)
  rw [entries, hlines, lines_flatMap (List.forall_mem_map.2 hone), List.map_map]
  refine (List.map_congr_left fun e he => ?_).trans (List.map_id _)
  exact (congrArg entryOf (rdropWhile_eq_self (hone e he))).trans (entryOf_text e)

/-! ### Reading the records of one file -/

theorem foldl_record_functions {fns : List (String × FunctionHits)}
    (hfns : (fns.map Prod.fst).Nodup)
    (hexecuted : ∀ fn ∈ fns, fn.2.executed = decide (fn.2.hits > 0))
    (hnew : ∀ name ∈ fns.map Prod.fst, f.functions[name]? = none) :
    (fns.flatMap fun (name, fn) => [.function fn.line name, .calls fn.hits name]).foldl record f =
      { f with functions := f.functions.insertMany fns } := by
  induction fns generalizing f with
  | nil => simp
  | cons fn fns ih =>
      obtain ⟨name, fn⟩ := fn
      obtain ⟨hname, hfns⟩ := List.nodup_cons.1 hfns
      obtain ⟨hfn, hexecuted⟩ := List.forall_mem_cons.1 hexecuted
      obtain ⟨hnone, hnew⟩ := List.forall_mem_cons.1 hnew
      have hrecord : record (record f (.function fn.line name)) (.calls fn.hits name) =
          { f with functions := f.functions.insert name fn } := by
        obtain ⟨line, executed, hits⟩ := fn
        obtain rfl : executed = decide (hits > 0) := hfn
        have hnew : name ∉ f.functions := by
          rw [Std.ExtTreeMap.mem_iff_isSome_getElem?, hnone]
          exact Bool.false_ne_true
        have hknown : (f.functions.insertIfNew name { line }).getD name {} = { line } := by
          rw [Std.ExtTreeMap.getD_eq_getD_getElem?, Std.ExtTreeMap.getElem?_insertIfNew,
            if_pos ⟨by simp, hnew⟩]
          rfl
        rw [record, record, hknown, Keyed.insert_insertIfNew]
      have hnew' : ∀ other ∈ fns.map Prod.fst, (f.functions.insert name fn)[other]? = none := by
        intro other hother
        have hne : ¬compare name other = .eq := by
          rw [Std.LawfulEqOrd.compare_eq_iff_eq]
          rintro rfl
          exact hname hother
        rw [Std.ExtTreeMap.getElem?_insert, if_neg hne, hnew other hother]
      rw [List.flatMap_cons, List.foldl_append, List.foldl_cons, List.foldl_cons, List.foldl_nil,
        hrecord, ih hfns hexecuted hnew', Std.ExtTreeMap.insertMany_cons]

theorem foldl_record_lines (ls : List (UInt32 × UInt64)) (f : FileCoverage) :
    (ls.map fun (n, hits) => Entry.line n hits).foldl record f =
      { f with lines := f.lines.insertMany ls } := by
  induction ls generalizing f with
  | nil => simp
  | cons l ls ih =>
      obtain ⟨n, hits⟩ := l
      simp [record, ih, Std.ExtTreeMap.insertMany_cons]

theorem foldl_record_branches {bs : List (BranchId × BranchHits)} (hbs : ∀ b ∈ bs, b.2.total = 1)
    (f : FileCoverage) :
    (bs.map fun (id, b) => Entry.branch id b.taken).foldl record f =
      { f with branches := f.branches.insertMany bs } := by
  induction bs generalizing f with
  | nil => simp
  | cons b bs ih =>
      obtain ⟨id, taken, total⟩ := b
      obtain ⟨htotal, hrest⟩ := List.forall_mem_cons.1 hbs
      obtain rfl : total = 1 := htotal
      simp [record, ih hrest, Std.ExtTreeMap.insertMany_cons]

/-- **The records of a file rebuild it** from its path. -/
theorem foldl_record (hf : f.Portable) :
    (recordEntries f).foldl record { path := f.path } = f := by
  have hfns : ∀ fn ∈ f.functions.toList, fn.2.executed = decide (fn.2.hits > 0) := fun fn hfn =>
    (hf.functions _ _ (Std.ExtTreeMap.mem_toList_iff_getElem?_eq_some.1 hfn)).2
  have hbs : ∀ b ∈ f.branches.toList, b.2.total = 1 := fun b hb =>
    hf.branches _ _ (Std.ExtTreeMap.mem_toList_iff_getElem?_eq_some.1 hb)
  rw [recordEntries, List.foldl_append, List.foldl_append, List.foldl_append,
    foldl_record_functions (Keyed.nodup_map_fst_toList f.functions) hfns (by simp),
    foldl_record_lines, foldl_record_branches hbs]
  simp [record, Keyed.insertMany_toList]

/-! ### Reading the records of all files -/

theorem foldl_step_of_forall_ne_file (hes : ∀ e ∈ es, ∀ path, e ≠ .file path) (files : Files)
    (f : FileCoverage) :
    es.foldl Progress.step ⟨files, some f⟩ = ⟨files, some (es.foldl record f)⟩ := by
  induction es generalizing f with
  | nil => rfl
  | cons e es ih =>
      obtain ⟨he, hrest⟩ := List.forall_mem_cons.1 hes
      cases e with
      | file path => exact absurd rfl (he path)
      | _ => exact ih hrest _

theorem foldl_step_fileEntries (hf : f.Portable) (p : Progress) :
    (fileEntries f).foldl Progress.step p = ⟨p.finish, some f⟩ := by
  have hrest : ∀ e ∈ recordEntries f, ∀ path, e ≠ .file path := by
    rintro e he path rfl
    simp [recordEntries] at he
  rw [fileEntries, List.foldl_cons, Progress.step, foldl_step_of_forall_ne_file hrest,
    foldl_record hf]

/-- **Files that are written are read** and come out under their paths. -/
theorem read_write_eq (hfs : ∀ f ∈ fs, f.Portable) :
    read (write fs) = ({} : Files).insertMany (fs.map fun f => (f.path, f)) := by
  have hfold : ∀ p : Progress, ((fs.flatMap fileEntries).foldl Progress.step p).finish =
      p.finish.insertMany (fs.map fun f => (f.path, f)) := by
    intro p
    induction fs generalizing p with
    | nil => simp
    | cons f fs ih =>
        obtain ⟨hf, hfs⟩ := List.forall_mem_cons.1 hfs
        rw [List.flatMap_cons, List.foldl_append, foldl_step_fileEntries hf, ih hfs,
          List.map_cons, Std.ExtTreeMap.insertMany_cons]
        rfl
  rw [read, entries_write hfs]
  exact hfold {}

/-! ### What is read -/

/-- A record whose name is one line keeps a file portable. -/
theorem portable_record (hf : f.Portable) (he : e.Named) : (record f e).Portable := by
  cases e with
  | calls hits name =>
      refine { hf with functions := fun name' fn hfn => ?_ }
      rw [record, Std.ExtTreeMap.getElem?_insert] at hfn
      split at hfn
      · next heq =>
        obtain rfl := Std.LawfulEqOrd.eq_of_compare heq
        obtain rfl := Option.some.inj hfn
        exact ⟨he, rfl⟩
      · exact hf.functions name' fn hfn
  | function n name =>
      refine { hf with functions := fun name' fn hfn => ?_ }
      rw [record, Std.ExtTreeMap.getElem?_insertIfNew] at hfn
      split at hfn
      · next heq =>
        obtain rfl := Std.LawfulEqOrd.eq_of_compare heq.1
        obtain rfl := Option.some.inj hfn
        exact ⟨he, rfl⟩
      · exact hf.functions name' fn hfn
  | branch id taken =>
      refine { hf with branches := fun id' b hb => ?_ }
      rw [record, Std.ExtTreeMap.getElem?_insert] at hb
      split at hb
      · obtain rfl := Option.some.inj hb
        rfl
      · exact hf.branches id' b hb
  | _ => exact { hf with }

/-- Whether what has been read is portable, and the finished files are under their paths. -/
structure Progress.Sound (p : Progress) : Prop where
  files : ∀ (path : String) (f : FileCoverage), p.files[path]? = some f → f.path = path ∧ f.Portable
  current : ∀ f, p.current = some f → f.Portable

theorem sound_empty : Progress.Sound {} := ⟨by simp, by simp⟩

theorem Progress.Sound.finish (hp : p.Sound) (path : String) (f : FileCoverage)
    (hf : p.finish[path]? = some f) : f.path = path ∧ f.Portable := by
  unfold Progress.finish at hf
  split at hf
  · next g hg =>
    rw [Std.ExtTreeMap.getElem?_insert] at hf
    split at hf
    · next heq =>
      obtain rfl := Option.some.inj hf
      exact ⟨Std.LawfulEqOrd.eq_of_compare heq, hp.current g hg⟩
    · exact hp.files path f hf
  · exact hp.files path f hf

theorem Progress.Sound.step (hp : p.Sound) (he : e.Named) : (p.step e).Sound := by
  have hrecord : ∀ f, p.current.map (record · e) = some f → f.Portable := by
    intro f hf
    obtain ⟨g, hg, rfl⟩ := Option.map_eq_some_iff.1 hf
    exact portable_record (hp.current g hg) he
  cases e with
  | file path =>
      refine ⟨hp.finish, fun f hf => ?_⟩
      obtain rfl := Option.some.inj hf
      exact ⟨he, by simp, by simp⟩
  | _ => exact ⟨hp.files, hrecord⟩

/-- **Every file that is read is portable**, and under its path. -/
theorem portable_of_read (t path : String) (f : FileCoverage) (hf : (read t)[path]? = some f) :
    f.path = path ∧ f.Portable := by
  have hnamed : ∀ e ∈ entries t, e.Named := by
    intro e he
    obtain ⟨line, hline, rfl⟩ := List.mem_map.1 he
    exact named_entryOf (oneLine_rdropWhile (not_mem_of_mem_lines hline))
  have hsound : ((entries t).foldl Progress.step {}).Sound :=
    List.foldlRecOn _ _ sound_empty fun p hp e he => hp.step (hnamed e he)
  exact hsound.finish path f hf

/-- The files that are read have the keys they are under as paths. -/
theorem map_path_read (t : String) :
    ((read t).toList.map Prod.snd).map (fun f => (f.path, f)) = (read t).toList := by
  rw [List.map_map]
  refine (List.map_congr_left fun e he => ?_).trans (List.map_id _)
  have hpath := (portable_of_read t e.1 e.2 (Std.ExtTreeMap.mem_toList_iff_getElem?_eq_some.1 he)).1
  exact Prod.ext hpath rfl

/-- **A tracefile loses nothing it has room for.** Portable files with different paths are read back
as they were written, each under its path and nothing else. The files of any text are portable and
have different paths, so they come back from what is written for them. -/
theorem read_write :
    (∀ fs : List FileCoverage, (fs.map FileCoverage.path).Nodup → (∀ f ∈ fs, f.Portable) →
      ∀ (path : String) (f : FileCoverage),
        (read (write fs))[path]? = some f ↔ f ∈ fs ∧ f.path = path) ∧
    ∀ t : String,
      (((read t).toList.map Prod.snd).map FileCoverage.path).Nodup ∧
      (∀ f ∈ (read t).toList.map Prod.snd, f.Portable) ∧
      read (write ((read t).toList.map Prod.snd)) = read t := by
  constructor
  · intro fs hdistinct hfs path f
    have hkeys : (fs.map fun f => (f.path, f)).map Prod.fst = fs.map FileCoverage.path := by
      rw [List.map_map]
      rfl
    rw [read_write_eq hfs, Keyed.getElem?_insertMany_eq_some_iff (hkeys ▸ hdistinct)]
    constructor
    · rintro (h | ⟨-, h⟩)
      · obtain ⟨g, hg, heq⟩ := List.mem_map.1 h
        obtain ⟨rfl, rfl⟩ := Prod.mk.inj heq
        exact ⟨hg, rfl⟩
      · simp at h
    · rintro ⟨hf, rfl⟩
      exact .inl (List.mem_map_of_mem hf)
  · intro t
    have hportable : ∀ f ∈ (read t).toList.map Prod.snd, f.Portable := by
      intro f hf
      obtain ⟨e, he, rfl⟩ := List.mem_map.1 hf
      exact (portable_of_read t e.1 e.2 (Std.ExtTreeMap.mem_toList_iff_getElem?_eq_some.1 he)).2
    refine ⟨?_, hportable, ?_⟩
    · have hkeys := congrArg (List.map Prod.fst) (map_path_read t)
      rw [List.map_map] at hkeys
      exact hkeys ▸ Keyed.nodup_map_fst_toList (read t)
    · rw [read_write_eq hportable, map_path_read, Keyed.insertMany_toList]

/-- Two files whose paths and names have commas in them or are empty, with the largest counts. -/
theorem read_write_commas :
    let f : FileCoverage := {
      path := "a,b.cpp"
      lines := ({} : Std.ExtTreeMap UInt32 UInt64).insertMany
        [(0, 18446744073709551615), (4294967295, 0)]
      branches := ({} : Std.ExtTreeMap BranchId BranchHits).insert ⟨4, 0, 1⟩ ⟨2, 1⟩
      functions := ({} : Std.ExtTreeMap String FunctionHits).insertMany
        [("max<int,int>", ⟨3, true, 18446744073709551615⟩), ("", ⟨0, false, 0⟩)] }
    let g : FileCoverage := { path := "" }
    (read (write [f, g]))["a,b.cpp"]? = some f ∧ (read (write [f, g]))[""]? = some g := by
  intro f g
  have hf : f.Portable := by
    refine ⟨by decide, fun name fn hfn => ?_, fun id b hb => ?_⟩
    · rw [Keyed.getElem?_insertMany_eq_some_iff (by decide)] at hfn
      obtain h | ⟨-, h⟩ := hfn
      · simp only [List.mem_cons, Prod.mk.injEq, List.not_mem_nil, or_false] at h
        obtain ⟨rfl, rfl⟩ | ⟨rfl, rfl⟩ := h <;> decide
      · simp at h
    · rw [Std.ExtTreeMap.getElem?_insert] at hb
      split at hb
      · exact congrArg BranchHits.total (Option.some.inj hb.symm)
      · simp at hb
  have hg : g.Portable := ⟨by decide, by simp [g], by simp [g]⟩
  have h := read_write.1 [f, g] (by decide) (by simp [hf, hg])
  exact ⟨(h _ _).2 ⟨by simp, rfl⟩, (h _ _).2 ⟨by simp, rfl⟩⟩

end Tracefile
end DocExamples
