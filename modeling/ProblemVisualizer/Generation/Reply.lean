import ProblemVisualizer.Generation.Artifact
import ProblemVisualizer.Generation.ServiceError
import ProblemVisualizer.Json.Record
import ProblemVisualizer.Text.Blank

/-! Reading the service's reply.

A reply is a status and a record of texts, each of which may be missing. With a
status of success it is a result: the visual language, which must be there, and
each drawing, or the reason why it is missing. Any other status is a rejection,
with the service's own message if that says anything. -/
namespace ProblemVisualizer.Generation

structure Reply where
  visualLanguage : Option String := none
  svgFormal : Option String := none
  svgIntuitive : Option String := none
  formalError : Option String := none
  intuitiveError : Option String := none
  error : Option String := none
deriving DecidableEq, Repr

namespace Reply

def shape : Json.Shape where
  expected := "struct ResponseBody"
  fields := ["visual_language", "svg_formal", "svg_intuitive", "formal_error", "intuitive_error",
    "error"].map fun name => ⟨name, "a string"⟩
  nullable := true
  closed := false

def ofValues (values : Json.Values) : Reply where
  visualLanguage := values.text? "visual_language"
  svgFormal := values.text? "svg_formal"
  svgIntuitive := values.text? "svg_intuitive"
  formalError := values.text? "formal_error"
  intuitiveError := values.text? "intuitive_error"
  error := values.text? "error"

def parse (body : String) : Except String Reply := (Json.parseRecord shape body).map ofValues

end Reply

/-- A text that says something. -/
def telling? (s : Option String) : Option String := s.filter fun s => !Text.isBlank s

/-- A drawing that is there, or the reason given for its absence, or the artifact's own. -/
def Artifact.rendering (a : Artifact) (svg reason : Option String) : Rendering :=
  match telling? svg with
  | some markup => .svg markup
  | none => .unavailable (reason.getD a.fallbackReason)

def Reply.result (r : Reply) : Except ServiceError Result :=
  match r.visualLanguage with
  | none => .error (.decode "missing `visual_language`")
  | some description => .ok {
      description
      formal := Artifact.formal.rendering r.svgFormal r.formalError
      intuitive := Artifact.intuitive.rendering r.svgIntuitive r.intuitiveError }

/-- The message of a rejection that has none of its own. -/
def genericFailure : String := "Unknown error"

def isSuccess (status : Nat) : Bool := 200 ≤ status && status < 300

/-- What a status and the text of a body mean. -/
def interpret (status : Nat) (body : String) : Except ServiceError Result :=
  if isSuccess status then
    match Reply.parse body with
    | .error detail => .error (.decode detail)
    | .ok reply => reply.result
  else
    let message := (Reply.parse body).toOption.bind fun reply => telling? reply.error
    .error (.rejected status (message.getD genericFailure))

end ProblemVisualizer.Generation
