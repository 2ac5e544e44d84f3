import ProblemVisualizer.Screen.Layout

/-! Asking for areas, and handing them out.

The screen is divided by a rule that the client does not make. It is given one
constraint after another and gives back areas, and these are handed out to the
panels in turn. What is asked for and what is drawn are two lists: each has to
know of the error and of the description form by itself. -/
namespace ProblemVisualizer.Screen

/-- What is asked of the height of an area. -/
inductive Constraint where
  | length (rows : Nat)
  /-- At least so many rows, and those that are left over. -/
  | atLeast (rows : Nat)
deriving DecidableEq, Repr

namespace Constraint

def rows : Constraint → Nat
  | length rows | atLeast rows => rows

/-- Whether the area may have more rows than are asked for. -/
def grows : Constraint → Bool
  | length _ => false
  | atLeast _ => true

end Constraint

/-- A rule for dividing an area into areas on one another. -/
abbrev Divider := Area → List Constraint → List Area

/-- What is asked for, from top to bottom. -/
def constraints (error description : Bool) : List Constraint :=
  [.length 1, .length 6, .length 3, .length 1] ++
    (if error then [.length 3] else []) ++
    (if description then [.length 7, .length 1] else []) ++
    [.atLeast 0, .length 3]

/-! ### Handing out -/

/-- What a panel is given when no area is left. -/
def Area.empty : Area := ⟨0, 0, 0, 0⟩

/-- Gives each panel the next area. -/
def handOut : List Area → List Panel → List (Panel × Area)
  | _, [] => []
  | [], p :: rest => (p, .empty) :: handOut [] rest
  | area :: areas, p :: rest => (p, area) :: handOut areas rest

theorem map_fst_handOut (areas : List Area) (ps : List Panel) :
    (handOut areas ps).map Prod.fst = ps := by
  induction ps generalizing areas with
  | nil => cases areas <;> rfl
  | cons p rest ih => cases areas <;> simp [handOut, ih]

/-- No area is missing and none is left over if there are as many as panels. -/
theorem map_snd_handOut {areas : List Area} {ps : List Panel} (same : areas.length = ps.length) :
    (handOut areas ps).map Prod.snd = areas := by
  induction ps generalizing areas with
  | nil =>
    obtain rfl := List.eq_nil_of_length_eq_zero same
    rfl
  | cons p rest ih =>
    obtain ⟨area, areas, rfl⟩ := List.exists_cons_of_length_eq_add_one same
    simp [handOut, ih (Nat.succ.inj same)]

/-! ### A rule -/

/-- The rows that are asked for together. -/
def asked (cs : List Constraint) : Nat := cs.foldr (fun c n => c.rows + n) 0

/-- Divides an area from a row down. The first part that may grow takes the spare rows. -/
def divideFrom (whole : Area) (spare y : Nat) : List Constraint → List Area
  | [] => []
  | .length rows :: rest =>
    ⟨whole.x, y, whole.width, rows⟩ :: divideFrom whole spare (y + rows) rest
  | .atLeast rows :: rest =>
    ⟨whole.x, y, whole.width, spare + rows⟩ :: divideFrom whole 0 (y + (spare + rows)) rest

def divide : Divider := fun whole cs => divideFrom whole (whole.height - asked cs) whole.y cs

end ProblemVisualizer.Screen
