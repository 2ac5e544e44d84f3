import ProblemVisualizer.Screen.Canvas
import ProblemVisualizer.Text.Blank
import ProblemVisualizer.Text.ClusterWidth
import ProblemVisualizer.Text.Lines

/-! What a line of text is drawn with.

A text becomes lines of glyphs. A glyph is one cluster with the columns it takes
and its look. A text meant for a single line has its line ends taken out first,
and clusters never reach across one. -/
namespace ProblemVisualizer.Screen

open Text (clusters clusterWidth isSpace)

structure Glyph where
  symbol : List Char
  width : Nat
  style : Style
deriving DecidableEq, Repr

namespace Glyph

def ofCluster (style : Style) (cluster : List Char) : Glyph :=
  ⟨cluster, clusterWidth cluster, style⟩

/-- Whether a row may be broken here. The zero-width space allows it and the no-break space does
not. -/
def isBreak (g : Glyph) : Bool :=
  g.symbol = ['\u200b'] || (g.symbol.all isSpace && g.symbol ≠ ['\u00a0'])

end Glyph

abbrev Line := List Glyph

namespace Line

def width (l : Line) : Nat := l.foldr (fun g n => g.width + n) 0

/-- One line of a text. -/
def ofChars (style : Style) (cs : List Char) : Line :=
  (Text.lines cs).flatMap fun piece => (clusters piece).map (Glyph.ofCluster style)

def ofString (s : String) (style : Style) : Line := ofChars style s.toList

/-- The lines of a text; an empty text is one empty line. -/
def manyOfString (s : String) : List Line :=
  if s.isEmpty then [[]] else (Text.lines s.toList).map (ofChars {})

/-- The glyphs that fit into the room left on a row of `limit` columns. One that is wider than a
whole row is left out; at the first other one that does not fit, the row is cut. -/
def fitting (limit room : Nat) : Line → Line
  | [] => []
  | g :: rest =>
    if g.width > limit then fitting limit room rest
    else if g.width > room then []
    else g :: fitting limit (room - g.width) rest

/-- The line cut to a row. -/
def cut (limit : Nat) (l : Line) : Line := fitting limit limit l

/-- Draws a line from a place to the right. Glyphs without a width are not drawn; a wide one fills
its first cell and passes over the second. -/
def draw (canvas : Canvas) (x y : Nat) : Line → Canvas
  | [] => canvas
  | g :: rest =>
    if g.width = 0 then draw canvas x y rest
    else
      draw (canvas.modify x y fun c => {c with symbol := String.ofList g.symbol}.restyle g.style)
        (x + g.width) y rest

/-- Drawing a line changes its own row only, from its place to the right. -/
theorem get?_draw_of_ne (l : Line) (canvas : Canvas) (x y x' y' : Nat) (h : y' ≠ y ∨ x' < x) :
    (l.draw canvas x y).get? x' y' = canvas.get? x' y' := by
  induction l generalizing canvas x with
  | nil => rfl
  | cons g rest ih =>
    unfold draw
    split
    · exact ih canvas x h
    · rw [ih _ _ (by omega), Canvas.get?_modify, if_neg (by omega)]

end Line

end ProblemVisualizer.Screen
