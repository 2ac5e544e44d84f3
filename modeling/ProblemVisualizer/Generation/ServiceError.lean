/-! How a request can fail. -/
namespace ProblemVisualizer.Generation

inductive ServiceError where
  /-- The service was not reached, or its reply broke off. -/
  | transport (message : String)
  /-- The service answered with a status of failure. -/
  | rejected (status : Nat) (message : String)
  /-- The service reported success with a reply that says nothing usable. -/
  | decode (detail : String)
deriving DecidableEq, Repr

def ServiceError.message : ServiceError → String
  | transport message => message
  | rejected _ message => message
  | decode detail => "Invalid response from generation service: " ++ detail

end ProblemVisualizer.Generation
