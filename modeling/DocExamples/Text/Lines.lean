/-
# Lines

A text is cut after every line feed. The line feed is dropped, and so is one carriage return
right before it; a text that ends in a line feed has no empty line after it. `joinLines` puts
the line feeds back between the lines.
-/

namespace DocExamples
namespace Text

/-- The lines of a text, without their ends. -/
def lines : List Char → List (List Char)
  | [] => []
  | '\n' :: rest => [] :: lines rest
  | '\r' :: '\n' :: rest => [] :: lines rest
  | c :: rest =>
    match lines rest with
    | [] => [[c]]
    | line :: more => (c :: line) :: more

/-- No line has a line feed in it. -/
theorem not_mem_of_mem_lines {s line : List Char} (h : line ∈ lines s) : '\n' ∉ line := by
  fun_induction lines s generalizing line with
  | case1 => simp at h
  | case2 rest ih => rcases List.mem_cons.1 h with rfl | h <;> simp_all
  | case3 rest ih => rcases List.mem_cons.1 h with rfl | h <;> simp_all
  | case4 c rest h1 h2 he ih => simp_all; exact fun e => h1 e.symm
  | case5 c rest h1 h2 l more he ih =>
    rw [he] at ih
    rcases List.mem_cons.1 h with rfl | h
    · simp [ih (List.mem_cons_self ..)]; exact fun e => h1 e.symm
    · exact ih (List.mem_cons_of_mem _ h)

/-- The lines of a string, without their ends. -/
def linesOf (s : String) : List String := (lines s.toList).map String.ofList

/-- The lines with a line feed between neighbours. -/
def joinLines (ls : List String) : String := String.intercalate "\n" ls

end Text
end DocExamples
