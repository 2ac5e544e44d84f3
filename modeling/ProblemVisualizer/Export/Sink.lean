import ProblemVisualizer.Files.Failure
import ProblemVisualizer.Generation.Artifact
import ProblemVisualizer.Text.Bytes

/-! Where saved drawings go.

A sink first stages what is to be saved and hands out a reference to it; the
reference serves to put the staged bytes under a file name, and is given back
in the end. How a sink does this is its own affair: an instance says what each
call does to the sink's state. -/
namespace ProblemVisualizer.Export

/-- Bytes with their media type. -/
structure Blob where
  mediaType : String
  bytes : Text.Bytes
deriving DecidableEq

def Blob.svg (markup : String) : Blob := ⟨"image/svg+xml", Text.encode markup⟩

abbrev Reference := String

inductive ExportError where
  | stage (cause : Files.Failure)
  | write (filename : String) (cause : Files.Failure)
  | unknownReference (reference : Reference)
  | unavailable (artifact : Generation.Artifact)
deriving DecidableEq, Repr

def ExportError.message : ExportError → String
  | stage cause => "could not stage download: " ++ cause.message
  | write filename cause => "could not write " ++ filename ++ ": " ++ cause.message
  | unknownReference reference => "download reference " ++ reference ++ " is not staged"
  | unavailable artifact => artifact.name ++ " visualization is not available"

class Sink (σ : Type) where
  /-- Stages a blob. -/
  stage : Blob → σ → Except ExportError Reference × σ
  /-- Puts the staged bytes under a file name; gives the path they went to. -/
  deliver : Reference → String → σ → Except ExportError String × σ
  /-- Gives the reference back. -/
  revoke : Reference → σ → σ

/-- Saves a drawing. The reference is given back whether or not the delivery succeeds. -/
def save {σ : Type} [Sink σ] (markup filename : String) (sink : σ) :
    Except ExportError String × σ :=
  match Sink.stage (.svg markup) sink with
  | (.error e, sink) => (.error e, sink)
  | (.ok reference, sink) =>
    let (path, sink) := Sink.deliver reference filename sink
    (path, Sink.revoke reference sink)

end ProblemVisualizer.Export
