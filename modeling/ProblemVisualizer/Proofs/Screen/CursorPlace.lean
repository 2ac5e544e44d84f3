import Mathlib.Data.Prod.Lex
import Mathlib.Order.Monotone.Basic
import ProblemVisualizer.Proofs.Screen.Pages

/-! The place of the cursor.

The rows of a field and the place of its cursor come from two recursions.
`cursor_place` says that they agree: the cursor stands where the rows have the
character it is at, and at the end of the text where the next character will
stand; and as it goes through the text it never goes back on the screen.

It does not always stand inside the field. A character without columns stays on a
row that is full, so the cursor before it stands behind the last column.
`cursor_column` says that this is the only such place. -/
namespace ProblemVisualizer.Screen

open Text (charWidth charsWidth)

/-! ### Places on rows -/

/-- Counted through the rows, the character at the index is `c`, and this is its place: its row, and
the columns of what stands before it on that row. -/
structure Stands (rows : List (List Char)) (index : Nat) (c : Char) (spot : Spot) : Prop where
  split : ∃ above before after below, rows = above ++ (before ++ c :: after) :: below ∧
    index = above.flatten.length + before.length ∧ spot = ⟨charsWidth before, above.length⟩

/-- The place where the rows end: behind the last character, or in front of another row if the last
one is full. -/
inductive Ends (width : Nat) (rows : List (List Char)) : Spot → Prop where
  | beside {above : List (List Char)} {last : List Char} (split : rows = above ++ [last])
    (room : charsWidth last < width) : Ends width rows ⟨charsWidth last, above.length⟩
  | below {above : List (List Char)} {last : List Char} (split : rows = above ++ [last])
    (full : width ≤ charsWidth last) : Ends width rows ⟨0, above.length + 1⟩

variable {width index : Nat} {rows : List (List Char)} {c d : Char} {s t : Spot}

theorem Stands.getElem? (h : Stands rows index c s) : rows.flatten[index]? = some c := by
  obtain ⟨above, before, after, below, rfl, rfl, -⟩ := h.split
  rw [List.flatten_append, List.getElem?_append_right (Nat.le_add_right _ _)]
  simp

/-- No row comes between two accounts of one place: it would hold the character already. -/
theorem no_row_between {above extra below below' : List (List Char)}
    {before after before' after' : List Char}
    (split : (before ++ c :: after) :: below = extra ++ (before' ++ d :: after') :: below')
    (place : above.flatten.length + before.length
      = (above ++ extra).flatten.length + before'.length) : extra = [] := by
  cases extra with
  | nil => rfl
  | cons row more =>
    obtain ⟨rfl, -⟩ := List.cons.inj split
    simp at place
    omega

/-- A character has one place. -/
theorem Stands.unique (h : Stands rows index c s) (h' : Stands rows index d t) : s = t := by
  obtain ⟨above, before, after, below, rfl, place, rfl⟩ := h.split
  obtain ⟨above', before', after', below', same, place', rfl⟩ := h'.split
  have place := place.symm.trans place'
  have alike {before after before' after' : List Char} {below below' : List (List Char)}
      (split : (before ++ c :: after) :: below = (before' ++ d :: after') :: below')
      (long : before.length = before'.length) : before = before' :=
    (List.append_inj (List.cons.inj split).1 long).1
  rcases List.append_eq_append_iff.mp same with ⟨extra, rfl, split⟩ | ⟨extra, rfl, split⟩
  · obtain rfl := no_row_between split place
    obtain rfl := alike split (by simpa using place)
    simp
  · obtain rfl := no_row_between split place.symm
    obtain rfl := alike split.symm (by simpa using place)
    simp

/-! ### Inside the text and behind it -/

/-- A character stands where the page has made room for it, whatever is written after it. -/
theorem Page.stands_write (width : Nat) (p : Page) (c : Char) (rest : List Char) :
    Stands ((p.put width c).write width rest).rows p.text.length c (p.turn width c).spot := by
  obtain ⟨more, below, rows⟩ := exists_write_rows width (p.put width c) rest
  refine ⟨(p.turn width c).above, (p.turn width c).last, more, below, ?_, ?_, rfl⟩
  · rw [rows]
    simp [put]
  · rw [← text_turn width p c, text, List.length_append]

theorem Page.ends_rows (p : Page) : Ends width p.rows (p.spot.atEnd width) := by
  unfold Spot.atEnd
  split
  · exact .below rfl ‹_›
  · exact .beside rfl (Nat.lt_of_not_ge ‹_›)

theorem exists_of_getElem? {α : Type} {list : List α} {x : α} (h : list[index]? = some x) :
    ∃ before after, list = before ++ x :: after ∧ before.length = index := by
  obtain ⟨inside, rfl⟩ := List.getElem?_eq_some_iff.mp h
  refine ⟨list.take index, list.drop (index + 1), ?_, List.length_take_of_le inside.le⟩
  rw [← List.drop_eq_getElem_cons inside, List.take_append_drop]

namespace FieldRows

variable {value : String}

/-- The cursor stands where the rows have the character it is at. -/
theorem stands_cursor (width : Nat) (inside : value.toList[index]? = some c) :
    Stands (ofText value index width).rows index c (ofText value index width).cursor := by
  obtain ⟨before, after, text, rfl⟩ := exists_of_getElem? inside
  rw [rows_ofText, cursor_ofText value width text, page, text, Page.write_append]
  have written : (Page.write (max width 1) {} before).text = before := Page.text_write {} before
  have stands := Page.stands_write (max width 1) (.write (max width 1) {} before) c after
  rwa [written] at stands

theorem ends_cursor (width : Nat) (behind : value.length ≤ index) :
    Ends (max width 1) (ofText value index width).rows (ofText value index width).cursor := by
  rw [rows_ofText, cursor_ofText_of_le value width behind]
  exact (page value width).ends_rows

/-- The end of a text is where one more character of a single column will stand. -/
theorem cursor_push (width : Nat) (single : charWidth c = 1) (behind : value.length ≤ index) :
    (ofText (value.push c) value.length width).cursor = (ofText value index width).cursor := by
  have text : (value.push c).toList = value.toList ++ c :: [] := String.toList_push c
  have room : 1 ≤ max width 1 := Nat.le_max_right ..
  rw [cursor_ofText_of_le value width behind, ← String.length_toList, cursor_ofText _ _ text,
    Page.spot_turn, page, Spot.enter, Spot.atEnd, single]
  congr 1
  rw [eq_iff_iff]
  omega

end FieldRows

/-! ### The order of reading -/

namespace Spot

/-- Rows from the top down, and each of them from the left. -/
def reading (s : Spot) : ℕ ×ₗ ℕ := toLex (s.row, s.column)

theorem reading_le_iff : s.reading ≤ t.reading ↔ s.row < t.row ∨ s.row = t.row ∧ s.column ≤ t.column :=
  Prod.Lex.toLex_le_toLex

theorem reading_lt_iff : s.reading < t.reading ↔ s.row < t.row ∨ s.row = t.row ∧ s.column < t.column :=
  Prod.Lex.toLex_lt_toLex

theorem reading_le_enter (s : Spot) (c : Char) : s.reading ≤ (s.enter width c).reading := by
  unfold enter
  split
  · exact reading_le_iff.mpr (.inl (Nat.lt_succ_self _))
  · exact le_refl _

theorem reading_le_atEnd (s : Spot) : s.reading ≤ (s.atEnd width).reading := by
  unfold atEnd
  split
  · exact reading_le_iff.mpr (.inl (Nat.lt_succ_self _))
  · exact le_refl _

theorem enter_le_advance (s : Spot) (c : Char) :
    (s.enter width c).reading ≤ (s.advance width c).reading :=
  reading_le_iff.mpr (.inr ⟨rfl, Nat.le_add_right _ _⟩)

theorem enter_lt_advance (s : Spot) (columns : 0 < charWidth c) :
    (s.enter width c).reading < (s.advance width c).reading :=
  reading_lt_iff.mpr (.inr ⟨rfl, Nat.lt_add_of_pos_right columns⟩)

/-- No cursor stands before the place where the text starts. -/
theorem reading_le_cursor (s : Spot) (cs : List Char) (index : Nat) :
    s.reading ≤ (s.cursor width cs index).reading := by
  induction cs generalizing s index with
  | nil => exact s.reading_le_atEnd
  | cons c rest ih =>
    cases index with
    | zero => exact s.reading_le_enter c
    | succ index =>
      calc s.reading
        _ ≤ (s.enter width c).reading := s.reading_le_enter c
        _ ≤ (s.advance width c).reading := s.enter_le_advance c
        _ ≤ ((s.advance width c).cursor width rest index).reading := ih _ _

theorem cursor_le_succ (s : Spot) (cs : List Char) (index : Nat) :
    (s.cursor width cs index).reading ≤ (s.cursor width cs (index + 1)).reading := by
  induction cs generalizing s index with
  | nil => exact le_refl _
  | cons c rest ih =>
    cases index with
    | zero => exact (s.enter_le_advance c).trans (reading_le_cursor _ rest 0)
    | succ index => exact ih _ _

/-- Over a character that takes a column the cursor goes on. -/
theorem cursor_lt_succ (s : Spot) {cs : List Char} (columns : 0 < charWidth c)
    (inside : cs[index]? = some c) :
    (s.cursor width cs index).reading < (s.cursor width cs (index + 1)).reading := by
  induction cs generalizing s index with
  | nil => simp at inside
  | cons d rest ih =>
    cases index with
    | zero =>
      obtain rfl : d = c := by simpa using inside
      exact (s.enter_lt_advance columns).trans_le (reading_le_cursor _ rest 0)
    | succ index => exact ih _ (by simpa using inside)

end Spot

/-! ### The cursor and the rows -/

/-- **The cursor agrees with the rows.** Inside the text it is on the row that has the character it
is at, with as many columns before it as the characters before that one take on the row; at the end
of the text or behind it, it is where the rows end, and that is where one more character of a single
column will stand. As the cursor goes on through the text it never goes back on the screen, and over
a character that takes a column it goes on there too. -/
theorem cursor_place (value : String) {width : Nat} (positive : 1 ≤ width) :
    let cursor index := (FieldRows.ofText value index width).cursor
    (∀ index c, value.toList[index]? = some c →
      Stands (FieldRows.ofText value index width).rows index c (cursor index)) ∧
    (∀ index, value.length ≤ index →
      Ends width (FieldRows.ofText value index width).rows (cursor index)) ∧
    (Monotone fun index => (cursor index).reading) ∧
    (∀ index c, value.toList[index]? = some c → 0 < charWidth c →
      (cursor index).reading < (cursor (index + 1)).reading) ∧
    (∀ index c, value.length ≤ index → charWidth c = 1 → ∀ other,
      Stands (FieldRows.ofText (value.push c) other width).rows value.length c (cursor index)) := by
  intro cursor
  refine ⟨fun index c => FieldRows.stands_cursor width, fun index behind => ?_,
    monotone_nat_of_le_succ fun index => Spot.cursor_le_succ _ _ index,
    fun index c inside columns => Spot.cursor_lt_succ _ columns inside,
    fun index c behind single other => ?_⟩
  · have ends := FieldRows.ends_cursor width behind
    rwa [max_eq_left positive] at ends
  · have last : (value.push c).toList[value.length]? = some c := by
      rw [String.toList_push, ← String.length_toList]
      simp
    have stands := FieldRows.stands_cursor width last
    rw [FieldRows.cursor_push width single behind] at stands
    exact stands

/-- Two characters of two columns fill a row of four: the cursor behind them is on the next one,
where a letter will stand. -/
theorem cursor_place_wide :
    1 ≤ 4 ∧ Ends 4 [['苹', '果']] ⟨0, 1⟩ ∧ Stands [['苹', '果'], ['a']] 2 'a' ⟨0, 1⟩ := by
  obtain ⟨-, ends, -, -, pushed⟩ := cursor_place "苹果" (show 1 ≤ 4 by decide)
  have cursor : (FieldRows.ofText "苹果" 2 4).cursor = ⟨0, 1⟩ := by decide +kernel
  have rows : (FieldRows.ofText "苹果" 2 4).rows = [['苹', '果']] := by decide +kernel
  have longer : (FieldRows.ofText ("苹果".push 'a') 0 4).rows = [['苹', '果'], ['a']] := by
    decide +kernel
  refine ⟨by decide, ?_, ?_⟩
  · rw [← rows, ← cursor]
    exact ends 2 (by decide)
  · rw [← longer, ← cursor]
    exact pushed 2 'a' (by decide) (by decide) 0

/-! ### The last column -/

theorem Page.column_turn_le (p : Page) (c : Char) : (p.turn width c).spot.column ≤ width := by
  rcases p.room_turn width c with empty | room
  · exact empty.trans_le (Nat.zero_le _)
  · exact (Nat.le_add_right _ _).trans room

/-- Room behind the last column is room for a character that takes none. -/
theorem Page.charWidth_eq_zero (p : Page) (positive : 1 ≤ width)
    (full : (p.turn width c).spot.column = width) : charWidth c = 0 := by
  have last : charsWidth (p.turn width c).last = width := full
  rcases p.room_turn width c with empty | room <;> omega

/-- Inside the text the cursor is at most behind the last column, and there only before a character
that takes none. -/
theorem FieldRows.column_cursor {value : String} (width : Nat)
    (inside : value.toList[index]? = some c) :
    let column := (ofText value index width).cursor.column
    column ≤ max width 1 ∧ (column = max width 1 → charWidth c = 0) := by
  obtain ⟨before, after, text, rfl⟩ := exists_of_getElem? inside
  rw [cursor_ofText value width text]
  exact ⟨Page.column_turn_le _ c, Page.charWidth_eq_zero _ (Nat.le_max_right ..)⟩

theorem Ends.column_lt (h : Ends width rows s) (positive : 1 ≤ width) : s.column < width := by
  cases h with
  | beside _ room => exact room
  | below => exact positive

/-- **The cursor leaves the field in one place only.** It is never beyond the column behind the last
one, and it is inside the field unless it is at a character that takes no column and stands at the
end of a full row. -/
theorem cursor_column (value : String) (cursor : Nat) {width : Nat} (positive : 1 ≤ width) :
    let r := FieldRows.ofText value cursor width
    r.cursor.column ≤ width ∧
      (r.cursor.column < width ↔
        ¬ ∃ c row, charWidth c = 0 ∧ Stands r.rows cursor c ⟨width, row⟩) := by
  intro r
  have whole : r.rows.flatten = value.toList := flatten_rowsFrom ..
  cases inside : value.toList[cursor]? with
  | none =>
    have behind : value.length ≤ cursor := by
      rw [← String.length_toList]
      exact List.getElem?_eq_none_iff.mp inside
    have ends := FieldRows.ends_cursor width behind
    rw [max_eq_left positive] at ends
    have column := ends.column_lt positive
    refine ⟨column.le, iff_of_true column fun ⟨c, row, _, stands⟩ => ?_⟩
    have held := stands.getElem?
    rw [whole, inside] at held
    cases held
  | some c =>
    have stands : Stands r.rows cursor c r.cursor := FieldRows.stands_cursor width inside
    obtain ⟨column, full⟩ := FieldRows.column_cursor width inside
    rw [max_eq_left positive] at column full
    refine ⟨column, ?_, fun free => lt_of_le_of_ne column fun last => ?_⟩
    · rintro within ⟨d, row, -, border⟩
      rw [stands.unique border] at within
      exact Nat.lt_irrefl width within
    · exact free ⟨c, r.cursor.row, full last, last ▸ stands⟩

/-- Before a line break that follows a full row the cursor is not inside the field. -/
theorem cursor_on_border : ¬ ∀ (value : String) (cursor width : Nat), cursor ≤ value.length →
    1 ≤ width → (FieldRows.ofText value cursor width).cursor.column < width := by
  intro inside
  have column := inside "abcd\nef" 4 4 (by decide) (by decide)
  have border : (FieldRows.ofText "abcd\nef" 4 4).cursor = ⟨4, 0⟩ := by decide
  rw [border] at column
  exact Nat.lt_irrefl 4 column

/-- One character further on it is, at the start of the next row. -/
theorem cursor_column_behind_break : 1 ≤ 4 ∧ (FieldRows.ofText "abcd\nef" 5 4).cursor = ⟨0, 1⟩ ∧
    ¬ ∃ c row, charWidth c = 0 ∧ Stands [['a', 'b', 'c', 'd', '\n'], ['e', 'f']] 5 c ⟨4, row⟩ := by
  have within := (cursor_column "abcd\nef" 5 (show 1 ≤ 4 by decide)).2
  have cursor : (FieldRows.ofText "abcd\nef" 5 4).cursor = ⟨0, 1⟩ := by decide
  have rows : (FieldRows.ofText "abcd\nef" 5 4).rows
      = [['a', 'b', 'c', 'd', '\n'], ['e', 'f']] := by decide
  rw [cursor, rows] at within
  exact ⟨by decide, cursor, within.mp (by decide)⟩

end ProblemVisualizer.Screen
