import ProblemVisualizer.Files.Tree

/-! The log file.

It is opened for appending, and the directory it lies in is made first. When
either fails nothing is logged; the client runs all the same. -/
namespace ProblemVisualizer.Settings

open Files (Path Tree)

/-- Makes the directory that the log file lies in; says whether it is there. -/
def makeLogDirectory (tree : Tree) (path : String) : Bool × Tree :=
  match (Path.ofString path).parent? with
  | none => (true, tree)
  | some parent =>
    let (failure, tree) := tree.createDirectory parent.toText
    (failure.isNone, tree)

/-- The files once the log has been opened, or opening it has failed. -/
def openLog (tree : Tree) (path : String) : Tree :=
  let (made, tree) := makeLogDirectory tree path
  if made then (tree.openForAppend path).toOption.getD tree else tree

end ProblemVisualizer.Settings
