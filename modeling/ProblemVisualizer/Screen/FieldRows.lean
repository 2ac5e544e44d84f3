import ProblemVisualizer.Text.Lines
import ProblemVisualizer.Text.Width

/-! The rows of a form field.

A field breaks its text into rows character by character: a character that does
not fit beside those already on its row starts the next. The cursor is placed by
the same rule, at the character it stands before; at the end of the text it
stands after the last character, or on a new row when the last row is full. -/
namespace ProblemVisualizer.Screen

open Text (charWidth consFirst)

/-- A column of a row, both counted from nought. -/
structure Spot where
  column : Nat
  row : Nat
deriving DecidableEq, Repr

namespace Spot

def origin : Spot := ⟨0, 0⟩

/-- Where a character is drawn when the row so far ends here. -/
def enter (width : Nat) (s : Spot) (c : Char) : Spot :=
  if s.column > 0 ∧ s.column + charWidth c > width then ⟨0, s.row + 1⟩ else s

/-- Where the row ends once the character is drawn. -/
def advance (width : Nat) (s : Spot) (c : Char) : Spot :=
  let s := s.enter width c
  {s with column := s.column + charWidth c}

/-- Where the cursor stands at the end of the text. -/
def atEnd (width : Nat) (s : Spot) : Spot := if s.column ≥ width then ⟨0, s.row + 1⟩ else s

/-- Where the cursor stands, `index` characters further on. -/
def cursor (width : Nat) (s : Spot) : List Char → Nat → Spot
  | [], _ => s.atEnd width
  | c :: _, 0 => s.enter width c
  | c :: rest, index + 1 => cursor width (s.advance width c) rest index

end Spot

/-- The rows of a text that starts at `column`; the first of them is the rest of that row. -/
def rowsFrom (width column : Nat) : List Char → List (List Char)
  | [] => [[]]
  | c :: rest =>
    if column > 0 ∧ column + charWidth c > width then
      [] :: consFirst c (rowsFrom width (charWidth c) rest)
    else consFirst c (rowsFrom width (column + charWidth c) rest)

/-- A text broken into rows of a width, and the place of the cursor on them. A width of nought
counts as one. -/
structure FieldRows where
  rows : List (List Char)
  cursor : Spot
deriving DecidableEq, Repr

def FieldRows.ofText (value : String) (cursor width : Nat) : FieldRows :=
  let width := max width 1
  ⟨rowsFrom width 0 value.toList, Spot.origin.cursor width value.toList cursor⟩

/-- The rows together are the text. -/
theorem flatten_rowsFrom (width column : Nat) (cs : List Char) :
    (rowsFrom width column cs).flatten = cs := by
  induction cs generalizing column with
  | nil => rfl
  | cons c rest ih => unfold rowsFrom; split <;> simp [Text.flatten_consFirst, ih]

theorem rowsFrom_ne_nil (width column : Nat) (cs : List Char) : rowsFrom width column cs ≠ [] := by
  cases cs with
  | nil => exact List.cons_ne_nil _ _
  | cons c rest =>
    unfold rowsFrom
    split
    · exact List.cons_ne_nil _ _
    · unfold consFirst
      split <;> exact List.cons_ne_nil _ _

end ProblemVisualizer.Screen
