import ProblemVisualizer.Export.Sink
import ProblemVisualizer.Files.Temporary
import ProblemVisualizer.Files.Tree

/-! A sink that saves into a directory.

What is staged waits in a hidden file of that directory until its reference is
given back; delivery copies it. The directory is made when it is first needed. -/
namespace ProblemVisualizer.Export

open Files (Draw Failure Letters Tree joinPath pathOf)

/-- The name of a hidden file. -/
def hiddenName (letters : Letters) : String :=
  String.ofList (".math2visual-".toList ++ letters.chars ++ ".part".toList)

structure Downloads where
  directory : String
  tree : Tree
  /-- What the system brings to each hidden file. -/
  draws : Nat → Draw := fun n => ⟨.ofNat n, none⟩
  /-- How many hidden files have been asked for. -/
  drawn : Nat := 0
  /-- The live references, each with the path of its hidden file. -/
  staged : List (Reference × String) := []
  /-- How many references have been handed out. -/
  issued : Nat := 0

namespace Downloads

def reference (n : Nat) : Reference := "blob:math2visual/" ++ toString n

/-- The path of a hidden file in the directory, from the root. -/
def hiddenPath (d : Downloads) (letters : Letters) : String :=
  joinPath (joinPath (pathOf d.tree.workingDirectory) d.directory) (hiddenName letters)

/-- The tree without the file at a path, if it can be taken away. -/
def discard (tree : Tree) (path : String) : Tree :=
  match tree.removeFile path with
  | .ok tree => tree
  | .error _ => tree

/-- Writes bytes to a new hidden file and gives its path. A file that the device does not fill is
discarded. -/
def hide (bytes : Text.Bytes) (d : Downloads) : Except Failure String × Downloads :=
  let draw := d.draws d.drawn
  let path := d.hiddenPath draw.letters
  let d := {d with drawn := d.drawn + 1}
  match d.tree.createFile path bytes with
  | .error e => (.error e, d)
  | .ok tree =>
    match draw.fault with
    | some e => (.error e, {d with tree := discard tree path})
    | none => (.ok path, {d with tree})

def stage (blob : Blob) (d : Downloads) : Except ExportError Reference × Downloads :=
  match d.tree.createDirectory d.directory with
  | (some e, tree) => (.error (.stage e), {d with tree})
  | (none, tree) =>
    match hide blob.bytes {d with tree} with
    | (.error e, d) => (.error (.stage e), d)
    | (.ok path, d) =>
      let n := d.issued + 1
      (.ok (reference n), {d with staged := d.staged ++ [(reference n, path)], issued := n})

def deliver (ref : Reference) (filename : String) (d : Downloads) :
    Except ExportError String × Downloads :=
  match d.staged.lookup ref with
  | none => (.error (.unknownReference ref), d)
  | some hidden =>
    let path := joinPath d.directory filename
    match d.tree.copy hidden path with
    | .error e => (.error (.write filename e), d)
    | .ok tree => (.ok path, {d with tree})

def revoke (ref : Reference) (d : Downloads) : Downloads :=
  match d.staged.lookup ref with
  | none => d
  | some hidden =>
    {d with
      tree := discard d.tree hidden
      staged := d.staged.filter fun (r, _) => r ≠ ref}

instance : Sink Downloads := ⟨stage, deliver, revoke⟩

end Downloads

end ProblemVisualizer.Export
