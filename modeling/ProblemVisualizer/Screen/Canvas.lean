/-! The cells of a screen.

A canvas is a grid of cells, each with a symbol, two colours and a weight. It is
drawn on by changing cells: all of them by a rule, or one at a place. Places
outside the grid are passed over. -/
namespace ProblemVisualizer.Screen

inductive Color where
  /-- The terminal's own colour. -/
  | reset
  | black
  | red
  | green
  | yellow
  | magenta
  | cyan
  | darkGray
  | white
deriving DecidableEq, Repr

/-- What a drawing changes in the look of a cell. -/
structure Style where
  foreground : Option Color := none
  background : Option Color := none
  bold : Bool := false
deriving DecidableEq, Repr

structure Cell where
  symbol : String := " "
  foreground : Color := .reset
  background : Color := .reset
  bold : Bool := false
deriving DecidableEq, Repr, Inhabited

def Cell.restyle (c : Cell) (s : Style) : Cell :=
  { c with
    foreground := s.foreground.getD c.foreground
    background := s.background.getD c.background
    bold := c.bold || s.bold }

/-- Coordinates on the screen are words of sixteen bits and go round at this number. -/
def coordinateBound : Nat := 65536

/-- A rectangle of cells by its upper left corner and its size. -/
structure Area where
  x : Nat
  y : Nat
  width : Nat
  height : Nat
deriving DecidableEq, Repr

namespace Area

/-- The first column to the right of the area. -/
def right (a : Area) : Nat := a.x + a.width

/-- The first row below the area. -/
def bottom (a : Area) : Nat := a.y + a.height

def contains (a : Area) (x y : Nat) : Bool := a.x ≤ x && x < a.right && a.y ≤ y && y < a.bottom

/-- The area inside a border of one cell. -/
def inner (a : Area) : Area := ⟨a.x + 1, a.y + 1, a.width - 2, a.height - 2⟩

end Area

structure Canvas where
  width : Nat
  height : Nat
  cells : Array Cell
  size_cells : cells.size = width * height

namespace Canvas

def blank (width height : Nat) : Canvas :=
  ⟨width, height, Array.replicate (width * height) {}, Array.size_replicate⟩

def get? (c : Canvas) (x y : Nat) : Option Cell :=
  if x < c.width then c.cells[y * c.width + x]? else none

/-- The rows from top to bottom, each from left to right. -/
def rows (c : Canvas) : List (List Cell) :=
  (List.range c.height).map fun y => (List.range c.width).filterMap fun x => c.get? x y

/-- Changes every cell by a rule that knows its column and row. -/
def map (c : Canvas) (rule : Nat → Nat → Cell → Cell) : Canvas :=
  { c with
    cells := c.cells.mapIdx fun i cell => rule (i % c.width) (i / c.width) cell
    size_cells := by rw [Array.size_mapIdx]; exact c.size_cells }

/-- Changes the cell at one place. -/
def modify (c : Canvas) (x y : Nat) (rule : Cell → Cell) : Canvas :=
  if x < c.width then
    { c with
      cells := c.cells.modify (y * c.width + x) rule
      size_cells := by rw [Array.size_modify]; exact c.size_cells }
  else c

/-- Changes the look of an area. -/
def restyle (c : Canvas) (area : Area) (s : Style) : Canvas :=
  c.map fun x y cell => if area.contains x y then cell.restyle s else cell

/-- Empties an area. -/
def clear (c : Canvas) (area : Area) : Canvas :=
  c.map fun x y cell => if area.contains x y then {} else cell

theorem get?_map (c : Canvas) (rule : Nat → Nat → Cell → Cell) (x y : Nat) :
    (c.map rule).get? x y = (c.get? x y).map (rule x y) := by
  unfold get? map
  dsimp only
  split
  · next h =>
    have hx : (y * c.width + x) % c.width = x := by
      rw [Nat.mul_add_mod_self_right, Nat.mod_eq_of_lt h]
    have hy : (y * c.width + x) / c.width = y := by
      rw [Nat.add_comm, Nat.add_mul_div_right _ _ (by omega), Nat.div_eq_of_lt h, Nat.zero_add]
    rw [Array.getElem?_mapIdx, hx, hy]
  · rfl

theorem get?_modify (c : Canvas) (x y : Nat) (rule : Cell → Cell) (x' y' : Nat) :
    (c.modify x y rule).get? x' y' =
      if x' = x ∧ y' = y then (c.get? x' y').map rule else c.get? x' y' := by
  unfold modify
  split
  · next h =>
    unfold get?
    dsimp only
    split
    · next h' =>
      rw [Array.getElem?_modify]
      by_cases hxy : x' = x ∧ y' = y
      · obtain ⟨rfl, rfl⟩ := hxy
        simp
      · have hne : y * c.width + x ≠ y' * c.width + x' := by
          intro e
          have hx := congrArg (· % c.width) e
          simp only [Nat.mul_add_mod_self_right, Nat.mod_eq_of_lt h, Nat.mod_eq_of_lt h'] at hx
          have hy : y * c.width = y' * c.width := by omega
          exact hxy ⟨hx.symm, (Nat.eq_of_mul_eq_mul_right (by omega) hy).symm⟩
        simp [hne, hxy]
    · split <;> rfl
  · next h =>
    split
    · next e =>
      have : ¬ x' < c.width := by omega
      simp [get?, this]
    · rfl

end Canvas

end ProblemVisualizer.Screen
