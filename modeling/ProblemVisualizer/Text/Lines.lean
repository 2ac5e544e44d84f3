/-! The lines of a text.

A line ends at a line feed, or at a carriage return and a line feed; what ends
it is not part of it. A text that ends in a line end has no empty line after
it. -/
namespace ProblemVisualizer.Text

/-- Puts a character in front of the first line. -/
def consFirst (c : Char) : List (List Char) → List (List Char)
  | [] => [[c]]
  | line :: more => (c :: line) :: more

def lines : List Char → List (List Char)
  | [] => []
  | '\n' :: rest => [] :: lines rest
  | '\r' :: '\n' :: rest => [] :: lines rest
  | c :: rest => consFirst c (lines rest)

theorem flatten_consFirst (c : Char) (ls : List (List Char)) :
    (consFirst c ls).flatten = c :: ls.flatten := by
  cases ls <;> rfl

theorem consFirst_of_ne_nil (c : Char) {ls : List (List Char)} (h : ls ≠ []) :
    consFirst c ls = ls.modifyHead (c :: ·) := by
  cases ls with
  | nil => exact absurd rfl h
  | cons l more => rfl

/-- A text without line feeds is one line, unless it is empty. -/
theorem lines_of_not_mem {cs : List Char} (h : '\n' ∉ cs) (ne : cs ≠ []) : lines cs = [cs] := by
  fun_induction lines cs with
  | case1 => exact absurd rfl ne
  | case2 => exact absurd List.mem_cons_self h
  | case3 => simp at h
  | case4 c rest _ _ ih =>
    cases rest with
    | nil => rfl
    | cons d rest =>
      rw [ih (fun mem => h (List.mem_cons_of_mem c mem)) (List.cons_ne_nil d rest)]
      rfl

end ProblemVisualizer.Text
