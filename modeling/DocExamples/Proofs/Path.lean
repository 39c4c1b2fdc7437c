/-
# The file at the end of a path

A path that leads to a file is a text that leads to its directory, the name of the file, and slashes
and single dots that add no component (`exists_dir_of_fileName?`). The name is a stem, which is not
empty, and perhaps an extension behind a dot (`extension?_eq_some_iff`). A path with another
extension leads to a file in the same directory whose name has the same stem and that extension
(`Sibling.withExtension`).
-/

import DocExamples.Path
import DocExamples.Proofs.Text.Fields

namespace DocExamples
namespace Path

variable {path name dir stem e n r : List Char} {above : List Component}

/-- The part of a file name before its extension. -/
def stem? (path : List Char) : Option (List Char) :=
  (fileName? path).map fun name => (cutName name).1

/-- The components of the directory that a file is in. -/
def directory (path : List Char) : List Component := (components path).dropLast

/-- Whether `other` leads to a file that is in the directory of the file of `path` and has the stem
of that, with the extension `e`. -/
structure Sibling (path e other : List Char) : Prop where
  directory : directory other = directory path
  stem : stem? other = stem? path
  extension : extension? other = some e
  /-- The two paths are spelled in the same way up to the extension. -/
  spelling : ∃ start, start <+: path ∧ other = start ++ '.' :: e

/-! ### Names -/

/-- Whether a piece of a path can be the name of a file. -/
def IsName (n : List Char) : Prop := '/' ∉ n ∧ component? n = some (.normal n)

theorem component?_eq_none_iff : component? n = none ↔ n = [] ∨ n = ['.'] := by
  unfold component?
  split <;> simp_all

/-- An empty path and a single dot lead to no file. -/
theorem fileName?_eq_none (h : component? n = none) : fileName? n = none := by
  obtain rfl | rfl := component?_eq_none_iff.1 h <;> rfl

theorem eq_of_component? (h : component? n = some (.normal name)) : n = name := by
  unfold component? at h
  split at h <;> simp_all

theorem isName_iff : IsName n ↔ '/' ∉ n ∧ n ≠ [] ∧ n ≠ ['.'] ∧ n ≠ ['.', '.'] := by
  unfold IsName component?
  split <;> simp_all

/-- A stem with a dot and an extension behind it is a name. -/
theorem isName_append (hstem : '/' ∉ stem) (hne : stem ≠ []) (he : '/' ∉ e) (hext : e ≠ []) :
    IsName (stem ++ '.' :: e) := by
  obtain ⟨c, stem, rfl⟩ := List.exists_cons_of_ne_nil hne
  obtain ⟨c', e, rfl⟩ := List.exists_cons_of_ne_nil hext
  rw [isName_iff]
  refine ⟨by simp_all, by simp, by simp, ?_⟩
  cases stem <;> simp

theorem cutName_append (hne : stem ≠ []) (he : '.' ∉ e) :
    cutName (stem ++ '.' :: e) = (stem, some e) := by
  rw [cutName, Text.cutLast?_eq_some_iff.2 ⟨rfl, he⟩]
  split
  · next heq => simp_all
  · next heq => cases heq
  · next heq => simp_all

/-- A name is its stem, or has its extension and a dot behind that. -/
theorem cutName_cases (n : List Char) : cutName n = (n, none) ∨
    ∃ stem e, stem ≠ [] ∧ '.' ∉ e ∧ n = stem ++ '.' :: e ∧ cutName n = (stem, some e) := by
  cases hcut : Text.cutLast? '.' n with
  | none => exact .inl (by rw [cutName, hcut])
  | some cut =>
      obtain ⟨stem, e⟩ := cut
      obtain ⟨hn, he⟩ := Text.cutLast?_eq_some_iff.1 hcut
      cases stem with
      | nil => exact .inl (by rw [cutName, hcut])
      | cons c stem =>
          exact .inr ⟨c :: stem, e, List.cons_ne_nil c stem, he, hn,
            hn ▸ cutName_append (List.cons_ne_nil c stem) he⟩

/-- **The extension of a file** is what stands behind the last dot of its name. -/
theorem extension?_eq_some_iff : extension? path = some e ↔
    ∃ stem, stem ≠ [] ∧ '.' ∉ e ∧ fileName? path = some (stem ++ '.' :: e) := by
  rw [extension?, Option.bind_eq_some_iff]
  constructor
  · rintro ⟨n, hn, he⟩
    obtain hcut | ⟨stem, e', hne, he', rfl, hcut⟩ := cutName_cases n
    · rw [hcut] at he
      cases he
    · rw [hcut] at he
      obtain rfl := Option.some.inj he
      exact ⟨stem, hne, he', hn⟩
  · rintro ⟨stem, hne, he, hn⟩
    exact ⟨_, hn, by rw [cutName_append hne he]⟩

/-- A name starts with its stem, which is not empty. -/
theorem IsName.cutName (hn : IsName n) : (cutName n).1 <+: n ∧ (cutName n).1 ≠ [] := by
  obtain hcut | ⟨stem, e, hstem, -, rfl, hcut⟩ := cutName_cases n
  · rw [hcut]
    exact ⟨List.prefix_refl n, (isName_iff.1 hn).2.1⟩
  · rw [hcut]
    exact ⟨List.prefix_append stem _, hstem⟩

/-! ### Components -/

/-- What a path starts with besides the components of its pieces. -/
def lead (path : List Char) : List Component :=
  if isAbsolute path then [.root]
  else if (Text.splitOn '/' path).head? = some ['.'] then [.current] else []

theorem isAbsolute_iff : isAbsolute path = true ↔ ∃ rest, path = '/' :: rest := by
  rw [isAbsolute, beq_iff_eq, List.head?_eq_some_iff]

theorem components_eq (path : List Char) :
    components path = lead path ++ (Text.splitOn '/' path).filterMap component? := by
  have hdot : (Text.splitOn '/' path).head? = some ['.'] ↔
      ∃ more, Text.splitOn '/' path = ['.'] :: more := List.head?_eq_some_iff
  unfold components lead
  split
  · rfl
  · next hroot heq =>
      rw [if_neg fun h => (isAbsolute_iff.1 h).elim hroot, if_pos (hdot.2 ⟨_, heq⟩)]
  · next hroot hne =>
      rw [if_neg fun h => (isAbsolute_iff.1 h).elim hroot, if_neg fun h => (hdot.1 h).elim hne]

theorem head?_splitOn_append (d n : List Char) :
    (Text.splitOn '/' (d ++ '/' :: n)).head? = (Text.splitOn '/' d).head? := by
  rw [Text.splitOn_append, List.head?_append_of_ne_nil _ (Text.splitOn_ne_nil _ _)]

/-- How a path starts shows before its last slash. -/
theorem lead_append_slash (d n : List Char) : lead (d ++ '/' :: n) = lead (d ++ ['/']) := by
  have habs : isAbsolute (d ++ '/' :: n) = isAbsolute (d ++ ['/']) := by cases d <;> rfl
  rw [lead, lead, habs, head?_splitOn_append d n, head?_splitOn_append d []]

/-- The piece behind the last slash adds its component. -/
theorem components_append_slash (d : List Char) (hn : '/' ∉ n) :
    components (d ++ '/' :: n) = components (d ++ ['/']) ++ (component? n).toList := by
  have hlast : [n].filterMap component? = (component? n).toList := by
    cases hc : component? n <;> simp [hc]
  have hnil : (Text.splitOn '/' []).filterMap component? = [] := rfl
  rw [components_eq, components_eq, lead_append_slash, Text.splitOn_append, Text.splitOn_append,
    Text.splitOn_of_not_mem hn, List.filterMap_append, List.filterMap_append, hlast, hnil,
    List.append_nil, List.append_assoc]

/-- A slash at the end adds no component. -/
theorem components_concat_slash (h : path ≠ []) : components (path ++ ['/']) = components path := by
  have habs : isAbsolute (path ++ ['/']) = isAbsolute path := by
    rw [isAbsolute, isAbsolute, List.head?_append_of_ne_nil _ h]
  have hnil : (Text.splitOn '/' []).filterMap component? = [] := rfl
  rw [components_eq, components_eq, lead, lead, habs, head?_splitOn_append, Text.splitOn_append,
    List.filterMap_append, hnil, List.append_nil]

/-- A path that is one piece has the component of that piece. -/
theorem components_name (hn : IsName n) : components n = [.normal n] := by
  obtain ⟨hslash, -, hdot, -⟩ := isName_iff.1 hn
  have habs : isAbsolute n = false := by
    refine eq_false_of_ne_true fun h => ?_
    exact hslash (List.mem_of_mem_head? (eq_of_beq h))
  rw [components_eq, lead, habs, Text.splitOn_of_not_mem hslash]
  simp [hdot, hn.2]

/-- Names behind one and the same directory differ in the last component only. -/
theorem exists_components_append (hdir : dir = [] ∨ ∃ d, dir = d ++ ['/']) :
    ∃ above, ∀ n, IsName n → components (dir ++ n) = above ++ [.normal n] := by
  obtain rfl | ⟨d, rfl⟩ := hdir
  · exact ⟨[], fun n hn => components_name hn⟩
  · refine ⟨components (d ++ ['/']), fun n hn => ?_⟩
    rw [List.append_assoc, List.singleton_append, components_append_slash d hn.1, hn.2]
    rfl

theorem fileName?_of_components (h : components path = above ++ [.normal n]) :
    fileName? path = some n := by
  rw [fileName?, h, List.getLast?_concat]

theorem directory_of_components (h : components path = above ++ [.normal n]) :
    directory path = above := by
  rw [directory, h, List.dropLast_concat]

theorem exists_components_of_fileName? (h : fileName? path = some name) :
    ∃ above, components path = above ++ [.normal name] := by
  unfold fileName? at h
  split at h
  · next n hlast =>
      obtain rfl := Option.some.inj h
      exact List.getLast?_eq_some_iff.1 hlast
  · cases h

/-! ### The end of a path -/

/-- What is dropped from the end of a path adds no component, unless nothing else is there. -/
theorem components_dropTail (r : List Char) :
    components (dropTail r).reverse = components r.reverse ∨
      dropTail r = [] ∧ components r.reverse = [.root] := by
  fun_induction dropTail r with
  | case1 rest ih =>
      rw [List.reverse_cons]
      by_cases hrest : rest = []
      · subst hrest
        exact .inr ⟨by simp [dropTail], rfl⟩
      · rwa [components_concat_slash (by simpa using hrest)]
  | case2 rest ih =>
      have hdot : ('.' :: '/' :: rest).reverse = rest.reverse ++ '/' :: ['.'] := by simp
      rw [hdot, components_append_slash _ (by decide)]
      simpa [component?] using ih
  | case3 rest hslash hdot => exact .inl rfl

theorem dropTail_suffix (r : List Char) : dropTail r <:+ r := by
  fun_induction dropTail r with
  | case1 rest ih => exact ih.trans (List.suffix_cons '/' rest)
  | case2 rest ih => exact ih.trans (List.suffix_cons '.' ('/' :: rest))
  | case3 rest hslash hdot => exact List.suffix_rfl

theorem dropTail_ne (r rest : List Char) :
    dropTail r ≠ '/' :: rest ∧ dropTail r ≠ '.' :: '/' :: rest := by
  fun_induction dropTail r with
  | case1 rest ih => exact ih
  | case2 rest ih => exact ih
  | case3 r hslash hdot => exact ⟨hslash rest, hdot rest⟩

/-- The last component is the name that the last piece is. -/
theorem isName_of_append {base : List Component} (hn : '/' ∉ n) (hne : component? n ≠ none)
    (h : base ++ (component? n).toList = above ++ [.normal name]) : n = name ∧ IsName n := by
  obtain ⟨c, hc⟩ := Option.ne_none_iff_exists'.1 hne
  rw [hc] at h
  obtain ⟨-, hlast⟩ := List.append_inj' h rfl
  obtain rfl : c = .normal name := List.head_eq_of_cons_eq hlast
  obtain rfl := eq_of_component? hc
  exact ⟨rfl, hn, hc⟩

/-- **A path to a file** is, up to what adds no component, a text that leads to the directory and
the name. -/
theorem exists_dir_of_fileName? (h : fileName? path = some name) : IsName name ∧
    ∃ dir, (dir = [] ∨ ∃ d, dir = d ++ ['/']) ∧ (dropTail path.reverse).reverse = dir ++ name ∧
      dir ++ name <+: path ∧ components path = components (dir ++ name) := by
  obtain ⟨above, habove⟩ := exists_components_of_fileName? h
  obtain ⟨whole, hwhole⟩ : ∃ whole, dropTail path.reverse = List.reverse whole :=
    ⟨_, (List.reverse_reverse _).symm⟩
  have hsame : components whole = above ++ [.normal name] := by
    have htail := components_dropTail path.reverse
    rw [hwhole, List.reverse_reverse, List.reverse_reverse, habove] at htail
    obtain htail | ⟨-, hroot⟩ := htail
    · exact htail
    · simp [List.append_eq_singleton_iff] at hroot
  have hstart : whole <+: path := List.reverse_suffix.1 (hwhole ▸ dropTail_suffix path.reverse)
  rw [hwhole, List.reverse_reverse, habove, ← hsame]
  -- the name is what stands behind the last slash of the rest, or all of it
  cases hcut : Text.cutLast? '/' whole with
  | none =>
      have hslash : '/' ∉ whole := Text.cutLast?_eq_none_iff.1 hcut
      have hne : component? whole ≠ none := fun hnone =>
        Option.some_ne_none name ((fileName?_of_components hsame).symm.trans
          (fileName?_eq_none hnone))
      rw [components_eq, Text.splitOn_of_not_mem hslash] at hsame
      obtain ⟨rfl, hname⟩ := isName_of_append hslash hne hsame
      exact ⟨hname, [], .inl rfl, rfl, hstart, rfl⟩
  | some cut =>
      obtain ⟨d, n⟩ := cut
      obtain ⟨rfl, hslash⟩ := Text.cutLast?_eq_some_iff.1 hcut
      have hne : component? n ≠ none := fun hnone => by
        obtain ⟨hend, hdot⟩ := dropTail_ne path.reverse d.reverse
        obtain rfl | rfl := component?_eq_none_iff.1 hnone <;> simp_all
      rw [components_append_slash d hslash] at hsame
      obtain ⟨rfl, hname⟩ := isName_of_append hslash hne hsame
      exact ⟨hname, d ++ ['/'], .inr ⟨d, rfl⟩, by simp, by simpa using hstart, by simp⟩

/-- **A path with another extension** leads to a file in the same directory, of the same stem. -/
theorem Sibling.withExtension (h : fileName? path = some name) (hslash : '/' ∉ e) (hdot : '.' ∉ e)
    (hne : e ≠ []) : Sibling path e (withExtension path e) := by
  obtain ⟨hname, dir, hdir, hwhole, hstart, hpath⟩ := exists_dir_of_fileName? h
  obtain ⟨hleft, hstem⟩ := hname.cutName
  have hother : Path.withExtension path e = dir ++ ((cutName name).1 ++ '.' :: e) := by
    rw [Path.withExtension, h]
    simp [hwhole]
  have hnew : IsName ((cutName name).1 ++ '.' :: e) :=
    isName_append (fun hmem => hname.1 (hleft.subset hmem)) hstem hslash hne
  have hcut : cutName ((cutName name).1 ++ '.' :: e) = ((cutName name).1, some e) :=
    cutName_append hstem hdot
  obtain ⟨above, habove⟩ := exists_components_append hdir
  rw [habove name hname] at hpath
  have hcomponents : components (Path.withExtension path e) =
      above ++ [.normal ((cutName name).1 ++ '.' :: e)] := hother ▸ habove _ hnew
  constructor
  case directory => rw [directory_of_components hpath, directory_of_components hcomponents]
  case stem =>
    rw [stem?, stem?, h, fileName?_of_components hcomponents, Option.map_some, hcut,
      Option.map_some]
  case extension => rw [extension?, fileName?_of_components hcomponents, Option.bind_some, hcut]
  case spelling =>
    refine ⟨dir ++ (cutName name).1, ?_, by rw [hother, List.append_assoc]⟩
    exact ((List.prefix_append_right_inj dir).2 hleft).trans hstart

/-- A path that leads to no file has no other extension. -/
theorem withExtension_of_none (h : fileName? path = none) (e : List Char) :
    withExtension path e = path := by
  rw [withExtension, h]

end Path
end DocExamples
