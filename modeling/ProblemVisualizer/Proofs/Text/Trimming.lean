import Mathlib.Data.List.TakeWhile
import ProblemVisualizer.Text.Blank

/-! Texts without white space at their ends.

`Trims s t` says what trimming is to give, without saying how: `t` has no white space at
either end, and what `s` has around it is nothing else. There is one such text, and
`trim` finds it (`trims_trim`, `Trims.eq_trim`). -/
namespace ProblemVisualizer.Text

/-- There is no white space at either end. -/
structure Bare (s : String) : Prop where
  front : ∀ c ∈ s.toList.head?, isSpace c = false
  back : ∀ c ∈ s.toList.getLast?, isSpace c = false

/-- The second text is what the first one is without the white space around it. -/
structure Trims (s t : String) : Prop where
  bare : Bare t
  around : ∃ before after, s.toList = before ++ (t.toList ++ after) ∧
    (∀ c ∈ before, isSpace c = true) ∧ ∀ c ∈ after, isSpace c = true

section Lists

variable {cs before after : List Char}

theorem head_trimStart (cs : List Char) : ∀ c ∈ (trimStart cs).head?, isSpace c = false := by
  intro c hc
  have first := List.head?_dropWhile_not isSpace cs
  rwa [show (cs.dropWhile isSpace).head? = some c from hc] at first

theorem trimStart_append (spaces : ∀ c ∈ before, isSpace c = true) (cs : List Char) :
    trimStart (before ++ cs) = trimStart cs :=
  List.dropWhile_append_of_pos spaces

theorem trimStart_eq_self (front : ∀ c ∈ cs.head?, isSpace c = false) : trimStart cs = cs := by
  cases cs with
  | nil => rfl
  | cons c rest => exact List.dropWhile_cons_of_neg (by simp [front c rfl])

/-- White space at the end is white space at the start, read the other way. -/
theorem trimEnd_eq (cs : List Char) : trimEnd cs = (trimStart cs.reverse).reverse := rfl

theorem trimEnd_append (cs : List Char) (spaces : ∀ c ∈ after, isSpace c = true) :
    trimEnd (cs ++ after) = trimEnd cs := by
  have behind : ∀ c ∈ after.reverse, isSpace c = true := fun c hc =>
    spaces c (List.mem_reverse.mp hc)
  rw [trimEnd_eq, List.reverse_append, trimStart_append behind, ← trimEnd_eq]

theorem trimEnd_eq_self (back : ∀ c ∈ cs.getLast?, isSpace c = false) : trimEnd cs = cs := by
  rw [← List.head?_reverse] at back
  rw [trimEnd_eq, trimStart_eq_self back, List.reverse_reverse]

theorem exists_trimStart (cs : List Char) :
    ∃ before, cs = before ++ trimStart cs ∧ ∀ c ∈ before, isSpace c = true :=
  ⟨cs.takeWhile isSpace, List.takeWhile_append_dropWhile.symm, fun _ => List.mem_takeWhile_imp⟩

theorem exists_trimEnd (cs : List Char) :
    ∃ after, cs = trimEnd cs ++ after ∧ ∀ c ∈ after, isSpace c = true := by
  obtain ⟨before, split, spaces⟩ := exists_trimStart cs.reverse
  refine ⟨before.reverse, ?_, fun c hc => spaces c (List.mem_reverse.mp hc)⟩
  rw [trimEnd_eq, ← List.reverse_append, ← split, List.reverse_reverse]

end Lists

variable {s t : String}

theorem toList_trim (s : String) : (trim s).toList = trimEnd (trimStart s.toList) :=
  String.toList_ofList

theorem bare_trim (s : String) : Bare (trim s) where
  front := by
    rw [toList_trim]
    obtain ⟨after, split, -⟩ := exists_trimEnd (trimStart s.toList)
    intro c hc
    -- What is left begins where it began before its end was trimmed.
    refine head_trimStart s.toList c ?_
    rw [split, List.head?_append, Option.mem_def.mp hc]
    rfl
  back := by
    rw [toList_trim, trimEnd_eq, List.getLast?_reverse]
    exact head_trimStart _

theorem trims_trim (s : String) : Trims s (trim s) where
  bare := bare_trim s
  around := by
    obtain ⟨before, front, leading⟩ := exists_trimStart s.toList
    obtain ⟨after, back, trailing⟩ := exists_trimEnd (trimStart s.toList)
    refine ⟨before, after, ?_, leading, trailing⟩
    rw [toList_trim, ← back, ← front]

/-- There is only one text that a text is without the white space around it. -/
theorem Trims.eq_trim (h : Trims s t) : t = trim s := by
  obtain ⟨⟨front, back⟩, before, after, split, leading, trailing⟩ := h
  have whole : trimEnd (trimStart (t.toList ++ after)) = t.toList := by
    by_cases empty : t.toList = []
    · have nothing : trimStart after = [] :=
        (dropWhile_eq_nil_iff_all isSpace after).mpr (List.all_eq_true.mpr trailing)
      rw [empty, List.nil_append, nothing]
      rfl
    · have begins : (t.toList ++ after).head? = t.toList.head? := by
        cases first : t.toList with
        | nil => exact absurd first empty
        | cons c rest => rfl
      rw [← begins] at front
      rw [trimStart_eq_self front, trimEnd_append _ trailing, trimEnd_eq_self back]
  rw [trim, split, trimStart_append leading, whole, String.ofList_toList]

/-- A text is left as it is exactly if there is nothing to trim. -/
theorem trim_eq_self_iff (s : String) : trim s = s ↔ Bare s := by
  constructor
  · intro same
    exact same ▸ bare_trim s
  · intro bare
    exact (Trims.eq_trim ⟨bare, [], [], by simp, nofun, nofun⟩).symm

end ProblemVisualizer.Text
