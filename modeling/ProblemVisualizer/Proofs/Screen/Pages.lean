import ProblemVisualizer.Screen.FieldRows

/-! Rows as they are written.

The rows of a text are given from the right, as a recursion on what is left of
it. Seen from the left they are a page that is written on: the next character
joins the last row, or starts another one when it does not fit. `write_rows` and
`cursor_write` say that the two are the same, for the rows and for the cursor.
What holds of a page after every character then holds of the rows of a text. -/
namespace ProblemVisualizer.Screen

open Text (charWidth charsWidth)

/-- Rows, as far as they are written. -/
structure Page where
  /-- The rows above the last one. -/
  above : List (List Char) := []
  last : List Char := []

namespace Page

variable {width : Nat}

def rows (p : Page) : List (List Char) := p.above ++ [p.last]

def text (p : Page) : List Char := p.above.flatten ++ p.last

/-- Where the last row ends. -/
def spot (p : Page) : Spot := ⟨charsWidth p.last, p.above.length⟩

/-- Makes room for a character: one that does not fit beside those on the last row will stand on a
row of its own. -/
def turn (width : Nat) (p : Page) (c : Char) : Page :=
  if charsWidth p.last > 0 ∧ charsWidth p.last + charWidth c > width then ⟨p.rows, []⟩ else p

def put (width : Nat) (p : Page) (c : Char) : Page :=
  {p.turn width c with last := (p.turn width c).last ++ [c]}

def write (width : Nat) (p : Page) : List Char → Page
  | [] => p
  | c :: rest => (p.put width c).write width rest

theorem write_append (p : Page) (cs ds : List Char) :
    p.write width (cs ++ ds) = (p.write width cs).write width ds := by
  induction cs generalizing p with
  | nil => rfl
  | cons c rest ih => exact ih _

theorem flatten_rows (p : Page) : p.rows.flatten = p.text := by
  simp [rows, text]

/-! ### One character -/

/-- There is room after turning: the row is as good as empty, or the character fits on it. -/
theorem room_turn (width : Nat) (p : Page) (c : Char) : charsWidth (p.turn width c).last = 0 ∨
    charsWidth (p.turn width c).last + charWidth c ≤ width := by
  unfold turn
  split
  · exact .inl rfl
  · omega

theorem text_turn (width : Nat) (p : Page) (c : Char) : (p.turn width c).text = p.text := by
  unfold turn
  split
  · simp [text, rows]
  · rfl

theorem text_put (p : Page) (c : Char) : (p.put width c).text = p.text ++ [c] := by
  rw [← text_turn width p c]
  simp [text, put]

theorem spot_turn (p : Page) (c : Char) : (p.turn width c).spot = p.spot.enter width c := by
  unfold turn Spot.enter
  by_cases full : p.spot.column > 0 ∧ p.spot.column + charWidth c > width
  · have turned : charsWidth p.last > 0 ∧ charsWidth p.last + charWidth c > width := full
    rw [if_pos full, if_pos turned]
    simp [spot, rows]
  · have unturned : ¬ (charsWidth p.last > 0 ∧ charsWidth p.last + charWidth c > width) := full
    rw [if_neg full, if_neg unturned]

theorem spot_put (p : Page) (c : Char) : (p.put width c).spot = p.spot.advance width c := by
  unfold Spot.advance
  rw [← spot_turn]
  simp [spot, put]

/-! ### Whole texts -/

theorem text_write (p : Page) (cs : List Char) : (p.write width cs).text = p.text ++ cs := by
  induction cs generalizing p with
  | nil => simp [write]
  | cons c rest ih => rw [write, ih, text_put, List.append_assoc, List.singleton_append]

theorem put_of_full {p : Page} {c : Char}
    (full : charsWidth p.last > 0 ∧ charsWidth p.last + charWidth c > width) :
    p.put width c = ⟨p.rows, [c]⟩ := by
  rw [put, turn, if_pos full]
  rfl

theorem put_of_room {p : Page} {c : Char}
    (room : ¬ (charsWidth p.last > 0 ∧ charsWidth p.last + charWidth c > width)) :
    p.put width c = ⟨p.above, p.last ++ [c]⟩ := by
  rw [put, turn, if_neg room]

/-- **Writing gives the rows.** What is written after the last row of a page continues that row. -/
theorem write_rows (p : Page) (cs : List Char) : (p.write width cs).rows =
    p.above ++ (rowsFrom width (charsWidth p.last) cs).modifyHead (p.last ++ ·) := by
  induction cs generalizing p with
  | nil => simp [write, rows, rowsFrom]
  | cons c rest ih =>
    rw [write, ih, rowsFrom]
    split
    · rename_i full
      rw [put_of_full full, Text.consFirst_of_ne_nil c (rowsFrom_ne_nil _ _ _)]
      simp [rows]
    · rename_i room
      rw [put_of_room room, Text.consFirst_of_ne_nil c (rowsFrom_ne_nil _ _ _)]
      simp [Function.comp_def]

/-- The rows written so far stay, and only the last of them grows. -/
theorem exists_write_rows (width : Nat) (p : Page) (cs : List Char) :
    ∃ more below, (p.write width cs).rows = p.above ++ (p.last ++ more) :: below := by
  rw [write_rows]
  cases from_here : rowsFrom width (charsWidth p.last) cs with
  | nil => exact absurd from_here (rowsFrom_ne_nil _ _ _)
  | cons more below => exact ⟨more, below, rfl⟩

/-- The cursor passes over what is written before it. -/
theorem cursor_write (width : Nat) (p : Page) (cs ds : List Char) (index : Nat) :
    p.spot.cursor width (cs ++ ds) (cs.length + index)
      = (p.write width cs).spot.cursor width ds index := by
  induction cs generalizing p with
  | nil => rw [List.nil_append, List.length_nil, Nat.zero_add, write]
  | cons c rest ih =>
    rw [List.cons_append, List.length_cons, Nat.add_right_comm, Spot.cursor, ← spot_put, ih, write]

end Page

/-! ### The rows of a field -/

namespace FieldRows

variable (value : String) (width : Nat)

/-- The page with the whole text on it. -/
def page : Page := Page.write (max width 1) {} value.toList

theorem rows_ofText (cursor : Nat) : (ofText value cursor width).rows = (page value width).rows := by
  rw [page, Page.write_rows]
  exact (congrFun List.modifyHead_id _).symm

/-- Inside the text the cursor stands where the next character goes once those before it are
written. -/
theorem cursor_ofText {before : List Char} {c : Char} {after : List Char}
    (text : value.toList = before ++ c :: after) :
    (ofText value before.length width).cursor
      = ((Page.write (max width 1) {} before).turn (max width 1) c).spot := by
  have := Page.cursor_write (max width 1) {} before (c :: after) 0
  rw [← text] at this
  rw [Page.spot_turn]
  exact this

/-- Behind the text it stands where the page ends. -/
theorem cursor_ofText_of_le {index : Nat} (behind : value.length ≤ index) :
    (ofText value index width).cursor = (page value width).spot.atEnd (max width 1) := by
  obtain ⟨more, rfl⟩ := Nat.exists_eq_add_of_le behind
  have := Page.cursor_write (max width 1) {} value.toList [] more
  rwa [List.append_nil, String.length_toList] at this

end FieldRows

end ProblemVisualizer.Screen
