import ProblemVisualizer.App.State
import ProblemVisualizer.Screen.Canvas

/-! The panels of the screen.

Panels are stacked from the top over the full width. All have a fixed height but
the one for the drawings, which takes the rows left over. The error and the
description form have their panels only while there is something to show in
them. -/
namespace ProblemVisualizer.Screen

open Form (Field)

inductive Panel where
  | header
  | field (field : Field)
  /-- The button of the problem form. -/
  | generate
  | error (message : String)
  /-- The button of the description form. -/
  | resubmit
  | drawings
  | status
deriving DecidableEq, Repr

/-- The rows of a panel, if it has a height of its own. -/
def Panel.height? : Panel → Option Nat
  | header => some 1
  | field .problem => some 6
  | field .formula => some 3
  | field .description => some 7
  | generate => some 1
  | error _ => some 3
  | resubmit => some 1
  | drawings => none
  | status => some 3

/-- The panels for an error and an open description form, from top to bottom. -/
def panels (error : Option String) (seeded : Bool) : List Panel :=
  [.header, .field .problem, .field .formula, .generate] ++
    (error.map Panel.error).toList ++
    (if seeded then [.field .description, .resubmit] else []) ++
    [.drawings, .status]

/-- The rows that panels of a fixed height take together. -/
def fixedHeight (ps : List Panel) : Nat := ps.foldr (fun p n => p.height?.getD 0 + n) 0

/-- Stacks panels from a row down; `spare` is the height of one that has none of its own. -/
def stack (width spare y : Nat) : List Panel → List (Panel × Area)
  | [] => []
  | p :: rest =>
    let height := p.height?.getD spare
    (p, ⟨0, y, width, height⟩) :: stack width spare (y + height) rest

def layout (ps : List Panel) (width height : Nat) : List (Panel × Area) :=
  stack width (height - fixedHeight ps) 0 ps

/-- The two halves of an area; a middle column belongs to the left one. -/
def Area.halves (a : Area) : Area × Area :=
  let left := (a.width + 1) / 2
  ({a with width := left}, {a with x := a.x + left, width := a.width - left})

theorem map_fst_stack (width spare y : Nat) (ps : List Panel) :
    (stack width spare y ps).map Prod.fst = ps := by
  induction ps generalizing y with
  | nil => rfl
  | cons p rest ih => simp [stack, ih]

end ProblemVisualizer.Screen
