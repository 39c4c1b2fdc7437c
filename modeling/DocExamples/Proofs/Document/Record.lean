/-
# Records and their fields

Whether a document is a table or a list, the record that is read from it has in each of its fields
what the document gives for that field (`get?_of_record?`). A table that is written with an entry
for each value that is present is read as a record that has exactly these values
(`exists_record?_present`), and they nest less deep than the table (`height_lt_of_mem`).
-/

import DocExamples.Document.Record
import DocExamples.Proofs.KeyedList

namespace DocExamples
namespace Document

variable {entries : List (String × Option Document)} {names : List String} {name : String}
  {style : Positional} {r : Record Document} {d v : Document} {items : List Document}

/-- What a document gives for a field of a record with the given names: the entry of a table, or the
item of a list at the position of the field. -/
def given? (names : List String) (name : String) : Document → Option Document
  | table entries => (entries.find? (·.1 == name)).map (·.2)
  | list items => ((names.zip items).find? (·.1 == name)).map (·.2)
  | _ => none

/-- **A record has what the document gives** for each of its fields. -/
theorem get?_of_record? (h : d.record? style names = some r) (hname : name ∈ names) :
    r.get? name = d.given? names name := by
  unfold record? at h
  split at h
  · next entries =>
      dsimp only at h
      split_ifs at h
      obtain rfl := Option.some.inj h
      have hkeep : (fun e : String × Document => decide (names.contains e.1 ∧ e.1 == name)) =
          (·.1 == name) := by
        funext e
        by_cases he : e.1 = name <;> simp [he, hname]
      rw [Record.get?, given?, List.find?_filter, hkeep]
  · next items =>
      split at h
      · cases h
      · split_ifs at h
        obtain rfl := Option.some.inj h
        rfl
      · obtain rfl := Option.some.inj h
        rfl
  · cases h

/-! ### Fields -/

namespace Record

variable {V α : Type} {r : Record V} {v : V} {value : α} {read : V → Option α}

theorem required_eq (h : r.get? name = some v) : r.required name read = read v := by
  rw [required, h]

/-- An optional text that was written or left out. -/
theorem optional_text {r : Record Document} {text : Option String} (hr : r.positional = false)
    (h : r.get? name = text.map .text) : r.optional name (optional? text?) = some text := by
  rw [optional, h, hr]
  cases text <;> rfl

theorem defaulted_eq_of_some (h : r.get? name = some v) :
    r.defaulted name value read = read v := by
  rw [defaulted, h]

theorem defaulted_eq_of_none (h : r.get? name = none) :
    r.defaulted name value read = some value := by
  rw [defaulted, h]
  rfl

end Record

/-! ### Written tables -/

/-- The entries of a written table are the values that are present. -/
theorem mem_present : (name, d) ∈ entries.filterMap (fun (name, value) => value.map (name, ·)) ↔
    (name, some d) ∈ entries := by
  rw [List.mem_filterMap]
  constructor
  · rintro ⟨⟨name', value⟩, hmem, hvalue⟩
    obtain ⟨d', rfl, heq⟩ := Option.map_eq_some_iff.1 hvalue
    obtain ⟨rfl, rfl⟩ := Prod.mk.inj heq
    exact hmem
  · exact fun hmem => ⟨_, hmem, rfl⟩

theorem nodup_present (hnd : (entries.map Prod.fst).Nodup) :
    ((entries.filterMap fun (name, value) => value.map (name, ·)).map Prod.fst).Nodup := by
  refine hnd.sublist ?_
  induction entries with
  | nil => exact List.Sublist.slnil
  | cons e entries ih =>
      obtain ⟨name, value⟩ := e
      have hentries := ih hnd.of_cons
      cases value with
      | none => exact hentries.cons name
      | some d => exact hentries.cons_cons name

/-- Among the entries of a written table, in any order, a name leads to its value. -/
theorem find?_present {l : List (String × Document)} {value : Option Document}
    (hnd : (entries.map Prod.fst).Nodup)
    (hl : l.Perm (entries.filterMap fun (name, value) => value.map (name, ·)))
    (hmem : (name, value) ∈ entries) : (l.find? (·.1 == name)).map (·.2) = value := by
  have hlnd : (l.map Prod.fst).Nodup := (hl.map Prod.fst).nodup_iff.2 (nodup_present hnd)
  cases value with
  | some d =>
      have hd : (name, d) ∈ l := hl.mem_iff.2 (mem_present.2 hmem)
      rw [(Keyed.find?_eq_some_iff hlnd).2 ⟨hd, rfl⟩, Option.map_some]
  | none =>
      have hnone : ∀ e ∈ l, ¬ (e.1 == name) = true := fun e he hname => by
        have hsome : (name, some e.2) ∈ entries :=
          eq_of_beq hname ▸ mem_present.1 (hl.mem_iff.1 he)
        exact absurd (List.inj_on_of_nodup_map hnd hsome hmem rfl) (by simp)
      rw [List.find?_eq_none.2 hnone, Option.map_none]

theorem entry?_present {value : Option Document} (hnd : (entries.map Prod.fst).Nodup)
    (hmem : (name, value) ∈ entries) : entry? (present entries) name = value :=
  find?_present hnd (List.reverse_perm _) hmem

/-- **A written table as a record**: it has the values that are present and no others. -/
theorem exists_record?_present (entries : List (String × Option Document)) (names : List String)
    (hnd : (entries.map Prod.fst).Nodup) (hknown : ∀ e ∈ entries, e.1 ∈ names)
    (style : Positional) :
    ∃ r, (present entries).record? style names = some r ∧ r.positional = false ∧
      ∀ name value, (name, value) ∈ entries → r.get? name = value := by
  let written : List (String × Document) :=
    entries.filterMap fun (name, value) => value.map (name, ·)
  have hwritten : (written.map Prod.fst).Nodup := nodup_present hnd
  have hall : written.filter (fun e => names.contains e.1) = written :=
    List.filter_eq_self.2 fun e he => by simpa using hknown _ (mem_present.1 he)
  have hrecord : (present entries).record? style names = some ⟨false, written⟩ := by
    change (table written).record? style names = _
    rw [record?, hall, Keyed.eraseDups_of_nodup hwritten, List.length_map, if_pos rfl]
  exact ⟨_, hrecord, rfl, fun name value => find?_present hnd .rfl⟩

/-! ### Nesting -/

theorem height_le_of_mem_items (h : d ∈ items) : d.height ≤ heightOfItems items := by
  induction items with
  | nil => cases h
  | cons e items ih =>
      rw [heightOfItems]
      obtain rfl | h := List.mem_cons.1 h
      · exact Nat.le_max_left _ _
      · exact Nat.le_trans (ih h) (Nat.le_max_right _ _)

theorem height_le_of_mem_entries {entries : List (String × Document)} (h : (name, d) ∈ entries) :
    d.height ≤ heightOfEntries entries := by
  induction entries with
  | nil => cases h
  | cons e entries ih =>
      obtain ⟨name', d'⟩ := e
      rw [heightOfEntries]
      obtain heq | h := List.mem_cons.1 h
      · obtain ⟨-, rfl⟩ := Prod.mk.inj heq
        exact Nat.le_max_left _ _
      · exact Nat.le_trans (ih h) (Nat.le_max_right _ _)

theorem height_lt_of_mem (h : (name, some d) ∈ entries) : d.height < (present entries).height :=
  Nat.lt_succ_of_le (height_le_of_mem_entries (mem_present.2 h))

end Document
end DocExamples
