import ProblemVisualizer.Screen.Block
import ProblemVisualizer.Screen.WordWrap

/-! Lines of text in an area.

A paragraph is drawn inside its block. Without wrapping each line takes one row
and is cut at the right edge; with it a line takes as many rows as it needs.
Rows below the area are not drawn. -/
namespace ProblemVisualizer.Screen

inductive Wrapping where
  | cut
  /-- Break at spaces, dropping those that lead a line if `trim`. -/
  | words (trim : Bool)
deriving DecidableEq, Repr

structure Paragraph where
  lines : List Line
  block : Option Block := none
  style : Style := {}
  wrapping : Wrapping := .cut
  centred : Bool := false

namespace Paragraph

/-- The area left inside the block. -/
def inner (p : Paragraph) (area : Area) : Area :=
  match p.block with
  | some _ => area.inner
  | none => area

/-- The rows of the text in an area of a width. -/
def rows (p : Paragraph) (width : Nat) : List Line :=
  match p.wrapping with
  | .cut => p.lines.map (·.cut width)
  | .words trim => p.lines.flatMap (·.wrap width trim)

/-- How far a row is moved to the right. -/
def indent (p : Paragraph) (width : Nat) (row : Line) : Nat :=
  if p.centred then width / 2 - row.width / 2 else 0

/-- Draws rows under one another while the area lasts. -/
def drawRows (p : Paragraph) (area : Area) (canvas : Canvas) : Nat → List Line → Canvas
  | _, [] => canvas
  | n, row :: rest =>
    if n < area.height then
      p.drawRows area (row.draw canvas (area.x + p.indent area.width row) (area.y + n)) (n + 1) rest
    else canvas

def draw (p : Paragraph) (area : Area) (canvas : Canvas) : Canvas :=
  let canvas := canvas.restyle area p.style
  let canvas := match p.block with
    | some block => block.draw area canvas
    | none => canvas
  let inner := p.inner area
  if inner.width = 0 ∨ inner.height = 0 then canvas
  else p.drawRows inner (canvas.restyle inner p.style) 0 (p.rows inner.width)

end Paragraph

end ProblemVisualizer.Screen
