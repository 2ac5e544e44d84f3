import ProblemVisualizer.Form.Field
import ProblemVisualizer.Session.Slot

/-! A new result shows in the description form. -/
namespace ProblemVisualizer.Session

open Form (DescriptionForm)

/-- Seeds the form with the description of a success, and says whether that changed its text. -/
def seedFrom (state : RequestState) (form : DescriptionForm) : Bool × DescriptionForm :=
  match state.result? with
  | some result => form.seed result.description
  | none => (false, form)

/-- The form follows every change of state, and only changes: a transition that leaves the state
as it was says nothing new. -/
instance : Observer DescriptionForm where
  observe t form := if t.previous = t.current then form else (seedFrom t.current form).2

end ProblemVisualizer.Session
