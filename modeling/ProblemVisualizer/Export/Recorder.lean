import ProblemVisualizer.Export.Sink

/-! A sink that saves nothing and remembers what it was asked.

It can be set to fail at staging or at delivery. -/
namespace ProblemVisualizer.Export

inductive Call where
  | stage (blob : Blob)
  | deliver (reference : Reference) (filename : String)
  | revoke (reference : Reference)
deriving DecidableEq

inductive FailurePoint where
  | stage
  | deliver
deriving DecidableEq, Repr

structure Recorder where
  failsAt : Option FailurePoint := none
  /-- How many references have been handed out. -/
  issued : Nat := 0
  /-- The calls so far, the first one first. -/
  calls : List Call := []
deriving DecidableEq

namespace Recorder

def reference (n : Nat) : Reference := "blob:memory/" ++ toString n

def record (r : Recorder) (call : Call) : Recorder := {r with calls := r.calls ++ [call]}

instance : Sink Recorder where
  stage blob r :=
    let r := r.record (.stage blob)
    if r.failsAt = some .stage then (.error (.stage (.device "disk full")), r)
    else (.ok (reference (r.issued + 1)), {r with issued := r.issued + 1})
  deliver reference filename r :=
    let r := r.record (.deliver reference filename)
    if r.failsAt = some .deliver then (.error (.write filename (.device "dismissed")), r)
    else (.ok filename, r)
  revoke reference r := r.record (.revoke reference)

end Recorder

end ProblemVisualizer.Export
