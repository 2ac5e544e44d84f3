/-! Texts cut at separators. -/
namespace ProblemVisualizer.Text

/-- The parts of a text between separators; one more than there are separators. -/
def splitAll (isSeparator : Char → Bool) (cs : List Char) : List (List Char) :=
  cs.foldr (fun c parts =>
    if isSeparator c then [] :: parts
    else match parts with
      | part :: rest => (c :: part) :: rest
      | [] => [[c]]) [[]]

theorem splitAll_ne_nil (p : Char → Bool) (cs : List Char) : splitAll p cs ≠ [] := by
  cases cs with
  | nil => simp [splitAll]
  | cons c cs =>
    unfold splitAll
    rw [List.foldr_cons]
    repeat' split
    all_goals simp

theorem splitAll_cons_separator {p : Char → Bool} {c : Char} (h : p c = true) (cs : List Char) :
    splitAll p (c :: cs) = [] :: splitAll p cs := by
  simp [splitAll, h]

theorem splitAll_cons {p : Char → Bool} {c : Char} (h : p c = false) (cs : List Char) :
    ∃ part rest, splitAll p cs = part :: rest ∧ splitAll p (c :: cs) = (c :: part) :: rest := by
  obtain ⟨part, rest, hp⟩ := List.exists_cons_of_ne_nil (splitAll_ne_nil p cs)
  refine ⟨part, rest, hp, ?_⟩
  unfold splitAll at hp ⊢
  simp [h, hp]

end ProblemVisualizer.Text
