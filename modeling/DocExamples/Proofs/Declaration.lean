/-
# Declarations in documents

A declaration is written with its absent comment and its empty list of nested declarations left out.
Reading restores both, in the declaration and in all that are nested in it (`read?_toDocument`, by
induction on how deep the document nests), so declarations that are written alike are the same
(`ofDocument?_written`).
-/

import DocExamples.Declaration
import DocExamples.Proofs.Document.Record

namespace DocExamples

namespace Location

theorem number?_nat (n : UInt32) : number? (.nat n.toNat) = some n := by
  have hlt : n.toNat < UInt32.size := n.toNat_lt
  simp [number?, Document.nat, Document.bounded?, hlt]

theorem ofDocument?_toDocument (l : Location) : ofDocument? l.toDocument = some l := by
  obtain ⟨r, hr, -, hget⟩ := Document.exists_record?_present
    [("column", some (.nat l.column.toNat)), ("file", some (.text l.file)),
      ("line", some (.nat l.line.toNat))]
    ["file", "line", "column"] (by simp) (by simp) .exact
  have hfile : r.get? "file" = some (.text l.file) := hget _ _ (by simp)
  have hline : r.get? "line" = some (.nat l.line.toNat) := hget _ _ (by simp)
  have hcolumn : r.get? "column" = some (.nat l.column.toNat) := hget _ _ (by simp)
  have hrecord : l.toDocument.record? .exact ["file", "line", "column"] = some r := hr
  rw [ofDocument?, hrecord]
  simp [Document.Record.required_eq hfile, Document.Record.required_eq hline,
    Document.Record.required_eq hcolumn, number?_nat, Document.text?]

end Location

namespace DeclarationKind

theorem ofDocument?_key (k : DeclarationKind) : ofDocument? (.text k.key) = some k := by
  cases k <;> decide

end DeclarationKind

namespace Declaration

variable {n : Nat} {ds : List Declaration}

theorem toDocuments_eq (ds : List Declaration) : toDocuments ds = ds.map toDocument := by
  induction ds with
  | nil => rfl
  | cons d ds ih => rw [toDocuments, ih, List.map_cons]

/-- Nested declarations are read if each of them is. -/
theorem list?_toDocument (h : ∀ d ∈ ds, read? n d.toDocument = some d) :
    Document.list? (read? n) (.list (ds.map toDocument)) = some ds := by
  rw [Document.list?]
  induction ds with
  | nil => rfl
  | cons d ds ih =>
      obtain ⟨hd, hds⟩ := List.forall_mem_cons.1 h
      rw [List.map_cons, List.mapM_cons, hd, ih hds]
      rfl

/-- What a declaration writes, field by field. -/
def written (d : Declaration) : List (String × Option Document) := [
  ("children", if d.children.isEmpty then none else some (.list (d.children.map toDocument))),
  ("comment", d.comment.map .text),
  ("kind", some (.text d.kind.key)),
  ("location", some d.location.toDocument),
  ("name", some (.text d.name))]

theorem toDocument_eq (d : Declaration) : d.toDocument = .present d.written := by
  obtain ⟨name, kind, location, comment, children⟩ := d
  rw [toDocument, toDocuments_eq, written]

theorem nodup_written (d : Declaration) : (d.written.map Prod.fst).Nodup := by
  simp [written]

theorem height_lt_of_mem_children {d e : Declaration} (h : e ∈ d.children) :
    e.toDocument.height < d.toDocument.height := by
  have hne : d.children.isEmpty = false := by
    rw [List.isEmpty_eq_false_iff]
    exact List.ne_nil_of_mem h
  have hmem : ("children", some (.list (d.children.map toDocument))) ∈ d.written := by
    simp [written, hne]
  rw [d.toDocument_eq]
  refine Nat.lt_trans (Nat.lt_succ_of_le ?_) (Document.height_lt_of_mem hmem)
  exact Document.height_le_of_mem_items (List.mem_map_of_mem h)

/-- **Reading a declaration that was written** gives it back, however deep others nest in it. -/
theorem read?_toDocument (d : Declaration) (h : d.toDocument.height < n) :
    read? n d.toDocument = some d := by
  induction n generalizing d with
  | zero => exact absurd h (Nat.not_lt_zero _)
  | succ n ih =>
      obtain ⟨r, hr, hpositional, hget⟩ := Document.exists_record?_present d.written
        ["name", "kind", "location", "comment", "children"] d.nodup_written (by simp [written])
        .exact
      simp only [written, List.mem_cons] at hget
      have hname : r.get? "name" = some (.text d.name) := hget _ _ (by simp)
      have hkind : r.get? "kind" = some (.text d.kind.key) := hget _ _ (by simp)
      have hlocation : r.get? "location" = some d.location.toDocument := hget _ _ (by simp)
      have hcomment : r.get? "comment" = d.comment.map .text := hget _ _ (by simp)
      have hchildren : r.get? "children" =
          if d.children.isEmpty then none else some (.list (d.children.map toDocument)) :=
        hget _ _ (by simp)
      have hnested : r.defaulted "children" [] (Document.list? (read? n)) = some d.children := by
        cases hempty : d.children.isEmpty with
        | true =>
            rw [hempty, if_pos rfl] at hchildren
            rw [Document.Record.defaulted_eq_of_none hchildren, List.isEmpty_iff.1 hempty]
        | false =>
            rw [hempty, if_neg Bool.false_ne_true] at hchildren
            rw [Document.Record.defaulted_eq_of_some hchildren]
            refine list?_toDocument fun e he => ih e ?_
            exact Nat.lt_of_lt_of_le (height_lt_of_mem_children he) (Nat.le_of_lt_succ h)
      rw [read?, d.toDocument_eq, hr]
      simp only [Document.Record.required_eq hname, Document.Record.required_eq hkind,
        Document.Record.required_eq hlocation, Document.Record.optional_text hpositional hcomment,
        hnested, Document.text?, DeclarationKind.ofDocument?_key, Location.ofDocument?_toDocument,
        Option.bind_eq_bind, Option.bind_some]
      cases d
      rfl

/-- **Declarations survive being written.** Reading what was written for a declaration gives it
back. Its comment is written if there is one, and its nested declarations, in the same way, if there
are any. Declarations that are written alike are the same. -/
theorem ofDocument?_written (d : Declaration) :
    ofDocument? d.toDocument = some d ∧
      d.toDocument.entry? "comment" = d.comment.map .text ∧
      d.toDocument.entry? "children" =
        (if d.children = [] then none else some (.list (d.children.map toDocument))) ∧
      ∀ e : Declaration, e.toDocument = d.toDocument → e = d := by
  have hread : ∀ d : Declaration, ofDocument? d.toDocument = some d := fun d =>
    d.read?_toDocument (Nat.lt_succ_self _)
  refine ⟨hread d, ?_, ?_, fun e he => ?_⟩
  · rw [toDocument_eq]
    exact Document.entry?_present d.nodup_written (by simp [written])
  · simp only [← List.isEmpty_iff]
    rw [d.toDocument_eq]
    exact Document.entry?_present d.nodup_written (by simp [written])
  · exact Option.some.inj ((hread e).symm.trans (he ▸ hread d))

end Declaration
end DocExamples
