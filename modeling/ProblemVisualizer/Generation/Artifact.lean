/-! The two drawings of a result.

A result is complete when both drawings came back; otherwise each one that did
not says why. -/
namespace ProblemVisualizer.Generation

inductive Artifact where
  | formal
  | intuitive
deriving DecidableEq, Repr

namespace Artifact

def all : List Artifact := [formal, intuitive]

def name : Artifact → String
  | formal => "formal"
  | intuitive => "intuitive"

/-- The file a drawing is saved under. -/
def filename : Artifact → String
  | formal => "formal-visualization.svg"
  | intuitive => "intuitive-visualization.svg"

def label : Artifact → String
  | formal => "Formal Representation"
  | intuitive => "Intuitive Representation"

/-- The reason shown when the service gives none. -/
def fallbackReason : Artifact → String
  | formal => "Could not generate formal visualization."
  | intuitive => "Could not generate intuitive visualization."

end Artifact

inductive Rendering where
  | svg (markup : String)
  | unavailable (reason : String)
deriving DecidableEq, Repr

namespace Rendering

def markup? : Rendering → Option String
  | svg markup => some markup
  | unavailable _ => none

def reason? : Rendering → Option String
  | svg _ => none
  | unavailable reason => some reason

end Rendering

structure Result where
  description : String
  formal : Rendering
  intuitive : Rendering
deriving DecidableEq, Repr

namespace Result

def rendering (r : Result) : Artifact → Rendering
  | .formal => r.formal
  | .intuitive => r.intuitive

def isComplete (r : Result) : Bool := Artifact.all.all fun a => (r.rendering a).markup?.isSome

/-- The drawings that are missing, with their reasons. -/
def missing (r : Result) : List (Artifact × String) :=
  Artifact.all.filterMap fun a => (r.rendering a).reason?.map fun reason => (a, reason)

theorem isComplete_iff_missing_eq_nil (r : Result) : r.isComplete = true ↔ r.missing = [] := by
  obtain ⟨d, f, i⟩ := r
  cases f <;> cases i <;> simp [isComplete, missing, Artifact.all, rendering, Rendering.markup?,
    Rendering.reason?]

end Result

end ProblemVisualizer.Generation
