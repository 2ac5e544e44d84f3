import Mathlib.Data.List.Chain
import ProblemVisualizer.Proofs.Screen.Pages

/-! Rows as long as they can be.

Of all the ways to break a text into rows there is one that never starts a row
before it must: `Greedy` says what that means without a word on how it is done.
`greedy_rows` says that it is the way of a form field, wherever its cursor stands,
and that there is no other. -/
namespace ProblemVisualizer.Screen

open Text (charWidth charsWidth charsWidth_eq_zero_iff)

/-- The row is no wider than the width. A character that alone is wider has to be on some row all the
same: with nothing after it, and before it only characters that take no column. -/
def Fits (width : Nat) (row : List Char) : Prop :=
  charsWidth row ≤ width ∨
    ∃ bare c, row = bare ++ [c] ∧ (∀ b ∈ bare, charWidth b = 0) ∧ width < charWidth c

/-- The next row had to be started: there is something on this one, and the character that the next
one starts with does not fit beside it. -/
def Breaks (width : Nat) (row next : List Char) : Prop :=
  0 < charsWidth row ∧ ∃ c rest, next = c :: rest ∧ width < charsWidth row + charWidth c

/-- A text broken into rows that are as long as they can be. -/
structure Greedy (width : Nat) (text : List Char) (rows : List (List Char)) : Prop where
  /-- Every character is there, once and in its place. -/
  whole : rows.flatten = text
  /-- The empty text has a row too. -/
  some : rows ≠ []
  filled : ∀ row ∈ rows, row = [] → text = []
  fits : ∀ row ∈ rows, Fits width row
  breaks : rows.IsChain (Breaks width)

variable {width : Nat} {text row next : List Char} {rows more : List (List Char)} {c : Char}

/-! ### Writing is greedy -/

theorem fits_concat (room : charsWidth row = 0 ∨ charsWidth row + charWidth c ≤ width) :
    Fits width (row ++ [c]) := by
  by_cases narrow : charsWidth row + charWidth c ≤ width
  · exact .inl (by simpa using narrow)
  · have bare := room.resolve_right narrow
    exact .inr ⟨row, c, rfl, (charsWidth_eq_zero_iff row).mp bare, by omega⟩

theorem Breaks.concat (h : Breaks width row next) (c : Char) : Breaks width row (next ++ [c]) := by
  obtain ⟨positive, first, rest, rfl, wide⟩ := h
  exact ⟨positive, first, rest ++ [c], rfl, wide⟩

theorem Breaks.ne_nil (h : Breaks width row next) : row ≠ [] := by
  rintro rfl
  exact Nat.lt_irrefl 0 h.1

namespace Page

/-- What holds of a page however far it is written. -/
structure Tidy (width : Nat) (p : Page) : Prop where
  above : ∀ row ∈ p.above, row ≠ []
  last : p.last = [] → p.text = []
  fits : ∀ row ∈ p.rows, Fits width row
  breaks : p.rows.IsChain (Breaks width)

variable {p : Page}

theorem forall_mem_rows {P : List Char → Prop} :
    (∀ row ∈ p.rows, P row) ↔ (∀ row ∈ p.above, P row) ∧ P p.last := by
  simp [rows, or_imp, forall_and]

theorem isChain_rows {R : List Char → List Char → Prop} :
    p.rows.IsChain R ↔ p.above.IsChain R ∧ ∀ row ∈ p.above.getLast?, R row p.last := by
  simp [rows, List.isChain_append]

theorem getLast?_rows : p.rows.getLast? = some p.last := List.getLast?_concat

theorem tidy_blank : Tidy width {} where
  above := by simp
  last _ := rfl
  fits := forall_mem_rows.mpr ⟨by simp, .inl (Nat.zero_le _)⟩
  breaks := .singleton _

/-- A full row is closed, and the character stands on the next one. -/
theorem Tidy.breakRow (h : p.Tidy width) (full : Breaks width p.last [c]) :
    Tidy width ⟨p.rows, [c]⟩ where
  above := forall_mem_rows.mpr ⟨h.above, full.ne_nil⟩
  last := nofun
  fits := forall_mem_rows.mpr ⟨h.fits, @fits_concat width [] c (.inl rfl)⟩
  breaks := by
    refine isChain_rows.mpr ⟨h.breaks, fun row mem => ?_⟩
    obtain rfl : p.last = row := by simpa [getLast?_rows] using mem
    exact full

/-- Where there is room the character joins the last row. -/
theorem Tidy.joinRow (h : p.Tidy width)
    (room : charsWidth p.last = 0 ∨ charsWidth p.last + charWidth c ≤ width) :
    Tidy width ⟨p.above, p.last ++ [c]⟩ where
  above := h.above
  last := by simp
  fits := forall_mem_rows.mpr ⟨(forall_mem_rows.mp h.fits).1, fits_concat room⟩
  breaks := by
    obtain ⟨above, broken⟩ := isChain_rows.mp h.breaks
    exact isChain_rows.mpr ⟨above, fun row mem => (broken row mem).concat c⟩

theorem Tidy.put (h : p.Tidy width) (c : Char) : (p.put width c).Tidy width := by
  by_cases full : charsWidth p.last > 0 ∧ charsWidth p.last + charWidth c > width
  · rw [put_of_full full]
    exact h.breakRow ⟨full.1, c, [], rfl, full.2⟩
  · rw [put_of_room full]
    exact h.joinRow (by omega)

theorem Tidy.write (h : p.Tidy width) (cs : List Char) : (p.write width cs).Tidy width := by
  induction cs generalizing p with
  | nil => exact h
  | cons c rest ih => exact ih (h.put c)

theorem Tidy.greedy (h : p.Tidy width) : Greedy width p.text p.rows where
  whole := p.flatten_rows
  some := by simp [rows]
  filled := forall_mem_rows.mpr ⟨fun row mem empty => absurd empty (h.above row mem), h.last⟩
  fits := h.fits
  breaks := h.breaks

end Page

/-! ### There is one greedy way -/

/-- A row that had to end where it did cannot go on. -/
theorem Breaks.not_fits (h : Breaks width row (c :: next)) (rest : List Char) :
    ¬ Fits width (row ++ c :: rest) := by
  obtain ⟨positive, _, _, first, wide⟩ := h
  cases first
  rintro (narrow | ⟨bare, d, split, none, -⟩)
  · simp only [Text.charsWidth_append, Text.charsWidth_cons] at narrow
    omega
  · -- All but the last character take no column, so the row would have none either.
    have inside : row <+: bare := by
      have before : row ++ c :: rest = (row ++ (c :: rest).dropLast) ++ [(c :: rest).getLast nofun] := by
        rw [List.append_assoc, List.dropLast_concat_getLast]
      rw [before] at split
      exact ⟨_, (List.append_inj' split rfl).1⟩
    have empty : charsWidth row = 0 :=
      (charsWidth_eq_zero_iff row).mpr fun b mem => none b (inside.subset mem)
    omega

/-- The first row of one greedy way is not shorter than that of another. -/
theorem Greedy.first_not_shorter {rest : List Char} {others : List (List Char)}
    (h : Greedy width text (row :: more)) (other : Greedy width text ((row ++ c :: rest) :: others)) :
    False := by
  have behind : more.flatten = c :: (rest ++ others.flatten) := by
    have whole := h.whole.trans other.whole.symm
    simpa using whole
  cases more with
  | nil => cases behind
  | cons next more =>
    have breaks : Breaks width row next := (List.isChain_cons_cons.mp h.breaks).1
    obtain ⟨-, d, tail, rfl, -⟩ := id breaks
    obtain rfl : d = c := (List.cons.inj behind).1
    exact breaks.not_fits rest (other.fits _ List.mem_cons_self)

theorem Greedy.first_eq {row' : List Char} {more' : List (List Char)}
    (h : Greedy width text (row :: more)) (h' : Greedy width text (row' :: more')) : row = row' := by
  have same : row ++ more.flatten = row' ++ more'.flatten := h.whole.trans h'.whole.symm
  rcases List.append_eq_append_iff.mp same with ⟨rest, rfl, -⟩ | ⟨rest, rfl, -⟩
  · cases rest with
    | nil => simp
    | cons c rest => exact (h.first_not_shorter h').elim
  · cases rest with
    | nil => simp
    | cons c rest => exact (h'.first_not_shorter h).elim

theorem Greedy.tail (h : Greedy width text (row :: next :: more)) :
    Greedy width (next :: more).flatten (next :: more) where
  whole := rfl
  some := List.cons_ne_nil _ _
  filled line mem empty := by
    -- The text is not empty: its first row has columns.
    have text_empty := h.filled line (List.mem_cons_of_mem _ mem) empty
    have first := (List.isChain_cons_cons.mp h.breaks).1.ne_nil
    have whole := h.whole
    rw [text_empty] at whole
    exact absurd (List.append_eq_nil_iff.mp whole).1 first
  fits line mem := h.fits line (List.mem_cons_of_mem _ mem)
  breaks := h.breaks.tail

/-- Where the first row is the whole text there is no other. -/
theorem Greedy.more_eq_nil (h : Greedy width text (text :: more)) : more = [] := by
  cases more with
  | nil => rfl
  | cons next more =>
    obtain ⟨-, c, rest, rfl, -⟩ := (List.isChain_cons_cons.mp h.breaks).1
    have whole := h.whole
    simp at whole

/-- **There is no other greedy way** to break a text. -/
theorem Greedy.unique {others : List (List Char)} (h : Greedy width text rows)
    (other : Greedy width text others) : rows = others := by
  induction rows generalizing text others with
  | nil => exact absurd rfl h.some
  | cons row more ih =>
    cases others with
    | nil => exact absurd rfl other.some
    | cons row' more' =>
      obtain rfl := h.first_eq other
      congr 1
      cases more with
      | nil =>
        obtain rfl : row = text := by simpa using h.whole
        exact other.more_eq_nil.symm
      | cons next more =>
        cases more' with
        | nil =>
          obtain rfl : row = text := by simpa using other.whole
          exact h.more_eq_nil
        | cons next' more' =>
          have behind : (next :: more).flatten = (next' :: more').flatten :=
            List.append_cancel_left (h.whole.trans other.whole.symm)
          exact ih h.tail (behind ▸ other.tail)

/-- **A field breaks its text the greedy way**, wherever the cursor stands: its rows are the only
ones that hold the text, with no row empty unless the text is, each within the width or taken by one
character that is wider, and each ended because the next character did not fit beside those on it.
A width of nought counts as one. -/
theorem greedy_rows (value : String) (cursor width : Nat) (rows : List (List Char)) :
    Greedy (max width 1) value.toList rows ↔
      rows = (FieldRows.ofText value cursor width).rows := by
  have own : Greedy (max width 1) value.toList (FieldRows.ofText value cursor width).rows := by
    have tidy : Page.Tidy (max width 1) (FieldRows.page value width) :=
      Page.tidy_blank.write value.toList
    have greedy := tidy.greedy
    rw [FieldRows.page, Page.text_write] at greedy
    rw [FieldRows.rows_ofText]
    exact greedy
  exact ⟨fun greedy => greedy.unique own, fun same => same ▸ own⟩

end ProblemVisualizer.Screen
