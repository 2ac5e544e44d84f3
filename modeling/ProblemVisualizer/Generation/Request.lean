import ProblemVisualizer.Json.Quote

/-! What the client asks of the generation service.

The first request carries a word problem and maybe a formula; a resubmission
carries the edited visual language alone. -/
namespace ProblemVisualizer.Generation

inductive Request where
  | initial (problem : String) (formula : Option String)
  | resubmit (description : String)
deriving DecidableEq, Repr

namespace Request

def kind : Request → String
  | initial .. => "initial"
  | resubmit .. => "resubmit"

/-- The members of the request's body, in the order they are written. -/
def members : Request → List (String × String)
  | initial problem none => [("mwp", problem)]
  | initial problem (some formula) => [("mwp", problem), ("formula", formula)]
  | resubmit description => [("dsl", description)]

/-- The text that goes over the wire. -/
def body (r : Request) : String := Json.writeObject r.members

end Request

end ProblemVisualizer.Generation
