/-
# The ids of loaded tests

An id tells the file and the number of an example. The examples of a scan are numbered, and all are
in its file, so the tests of one file have distinct ids (`nodup_ids_caseOf`) that no other file has
(`file_of_mem_ids_caseOf`).
-/

import DocExamples.Proofs.Scan.Grammar
import DocExamples.Proofs.Test.Id
import DocExamples.Session.Load
import Mathlib.Data.List.Nodup

namespace DocExamples

/-- The examples of a scan are in its file. -/
theorem Scan.file_of_mem_examples {provider : Provider} {file text : String} {e : Example}
    (he : e ∈ (Scan.ofText provider file text).examples) : e.location.file = file := by
  obtain ⟨block, hblock, rfl⟩ := List.mem_map.1 he
  have heq := blocksFrom_none file [] (Text.linesOf text)
  rw [List.length_nil] at heq
  rw [exampleBlocks, heq] at hblock
  obtain ⟨line, -, rfl⟩ := List.mem_map.1 hblock
  rfl

namespace Session

variable {scan : Scan} {timeout : Duration} {id : String}

theorem tests_caseOf (scan : Scan) (timeout : Duration) :
    (caseOf scan timeout).tests = scan.examples.mapIdx fun i e =>
      Test.ofExample e (Scan.parentOf? scan.declarations e) i timeout := rfl

/-- The tests of a file have distinct ids. -/
theorem nodup_ids_caseOf (scan : Scan) (timeout : Duration) :
    ((caseOf scan timeout).tests.map (·.id)).Nodup := by
  rw [tests_caseOf, List.nodup_iff_injective_getElem]
  intro i j h
  simp only [List.getElem_map, List.getElem_mapIdx] at h
  exact Fin.ext (Test.id_ofExample_inj.1 h).2.2

/-- The ids of the tests of a file tell the file. -/
theorem file_of_mem_ids_caseOf (hfile : ∀ e ∈ scan.examples, e.location.file = scan.file)
    (h : id ∈ (caseOf scan timeout).tests.map (·.id)) : fileOfId id = scan.file := by
  obtain ⟨x, hx, rfl⟩ := List.mem_map.1 h
  obtain ⟨i, hi, rfl⟩ := List.mem_mapIdx.1 hx
  rw [Test.fileOfId_ofExample]
  exact hfile _ (List.getElem_mem hi)

end Session
end DocExamples
