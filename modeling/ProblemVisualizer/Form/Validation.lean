import ProblemVisualizer.Form.Field
import ProblemVisualizer.Generation.Request

/-! Checks that stand before every submission.

A form that passes becomes the request it submits. The texts go out as they
stand, surrounding white space included; a blank formula is left out. -/
namespace ProblemVisualizer.Form

open Generation (Request)

inductive ValidationError where
  | problemRequired
  | descriptionRequired
deriving DecidableEq, Repr

/-- The field at fault. -/
def ValidationError.field : ValidationError → Field
  | problemRequired => .problem
  | descriptionRequired => .description

def ValidationError.message : ValidationError → String
  | problemRequired => "Please enter a math word problem"
  | descriptionRequired => "Visual language cannot be empty"

def ProblemForm.validate (f : ProblemForm) : Except ValidationError Request :=
  if f.problem.isBlank then .error .problemRequired
  else .ok (.initial f.problem.value (if f.formula.isBlank then none else some f.formula.value))

def DescriptionForm.validate (f : DescriptionForm) : Except ValidationError Request :=
  if f.buffer.isBlank then .error .descriptionRequired else .ok (.resubmit f.buffer.value)

end ProblemVisualizer.Form
