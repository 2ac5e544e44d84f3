import ProblemVisualizer.Screen.Glyph

/-! Frames around parts of the screen.

A block is a border of one cell with a title in its upper edge and, if there is
one, a note in its lower edge. Both start one cell right of the corner and are
cut at the right border. The title keeps the look of the border. -/
namespace ProblemVisualizer.Screen

structure Block where
  title : String := ""
  /-- The text in the lower edge and its look. -/
  note : Option (String × Style) := none
  /-- The look of the whole area. -/
  style : Style := {}
  border : Style := {}
deriving DecidableEq, Repr

namespace Block

/-- The border's symbol at a place of an area that is not empty. -/
def borderSymbol? (area : Area) (x y : Nat) : Option String :=
  let left := x = area.x
  let right := x + 1 = area.right
  let top := y = area.y
  let bottom := y + 1 = area.bottom
  if left ∧ top then some "┌"
  else if left ∧ bottom then some "└"
  else if right ∧ top then some "┐"
  else if right ∧ bottom then some "┘"
  else if top ∨ bottom then some "─"
  else if left ∨ right then some "│"
  else none

def drawBorder (b : Block) (area : Area) (canvas : Canvas) : Canvas :=
  canvas.map fun x y cell =>
    if area.contains x y then
      match borderSymbol? area x y with
      | some symbol => {cell.restyle b.style with symbol}.restyle b.border
      | none => cell.restyle b.style
    else cell

def drawEdgeText (text : String) (style : Style) (area : Area) (y : Nat) (canvas : Canvas) :
    Canvas :=
  ((Line.ofString text style).cut (area.width - 2)).draw canvas (area.x + 1) y

def draw (b : Block) (area : Area) (canvas : Canvas) : Canvas :=
  if area.width = 0 ∨ area.height = 0 then canvas
  else
    let canvas := drawEdgeText b.title {} area area.y (b.drawBorder area canvas)
    match b.note with
    | some (text, style) => drawEdgeText text style area (area.bottom - 1) canvas
    | none => canvas

end Block

end ProblemVisualizer.Screen
