import ProblemVisualizer.App.Terminal
import ProblemVisualizer.Export.Downloads
import ProblemVisualizer.Http.Offline
import ProblemVisualizer.Screen.View
import ProblemVisualizer.Settings.Config
import ProblemVisualizer.Settings.LogFile

/-! The command line.

The client reads lines of keys from the standard input and draws its screen
after each. There are no sockets here, so every call ends with the network being
unreachable. Files are looked up before they are needed, and changes to the tree
are carried out on the disk. -/
namespace ProblemVisualizer.Terminal

open Export (Downloads)
open Files (Entry Location Path Tree pathOf)
open Session (Outcome)
open Settings (Config)

/-- The tree with the file that a path names, if it can be read. -/
def lookUp (tree : Tree) (path : String) : IO Tree := do
  try
    return tree.plant (tree.locate (.ofString path)) (.file (← IO.FS.readBinFile path).data.toList)
  catch _ => return tree

def workingTree : IO Tree := do
  let loc := (Path.ofString (← IO.currentDir).toString).names
  return {Tree.plant {} loc .directory with workingDirectory := loc}

/-- Brings one entry to the disk. A file without content is opened and not cut. -/
def bring (loc : Location) : Entry → IO Unit
  | .directory => IO.FS.createDirAll (pathOf loc)
  | .file content =>
    if content.isEmpty then IO.FS.withFile (pathOf loc) .append fun _ => pure ()
    else IO.FS.writeBinFile (pathOf loc) ⟨content.toArray⟩

def carryOut (before after : Tree) : IO Unit := do
  for (loc, entry) in after.changesSince before do
    bring loc entry

def readEnvironment : IO (List (String × String)) := do
  let names := [Settings.fileVariable, "MATH2VISUAL_ENDPOINT", "MATH2VISUAL_EXPORT_DIR",
    "MATH2VISUAL_LOG_FILE", "MATH2VISUAL_LOG"]
  names.filterMapM fun name => do return (← IO.getEnv name).map fun value => (name, value)

/-- Lets the call in flight end, and takes its outcome. -/
def settle (endpoint : String) (a : App Downloads) : App Downloads :=
  match a.workers.ready.getLast? with
  | some ticket =>
    let outcome : Outcome := Http.call Http.offline endpoint ticket.request
    {a with workers := a.workers.finish ticket.id outcome}.collectAll.2
  | none => a.collectAll.2

def width : Nat := 120

def height : Nat := 40

def draw (a : App Downloads) : IO Unit := do
  for row in (Screen.renderBy Screen.divide a width height).canvas.rows do
    IO.println (String.join (row.map (·.symbol)))

partial def loop (input : IO.FS.Stream) (endpoint : String) (a : App Downloads) : IO Unit := do
  draw a
  let line ← input.getLine
  if line.isEmpty || a.shouldQuit then return
  let text := line.dropEndWhile fun c => c == '\n' || c == '\r'
  let pressed := (keyPresses text.toString).foldl (fun a (key, control) => a.press key control) a
  let settled := settle endpoint pressed
  carryOut a.sink.tree settled.sink.tree
  if settled.shouldQuit then draw settled else loop input endpoint settled

def run : IO UInt32 := do
  let values ← readEnvironment
  let env : Settings.Environment := fun name => values.lookup name
  let tree ← lookUp (← workingTree) ((env Settings.fileVariable).getD Settings.usualFile)
  match Config.load tree env with
  | .error e =>
    IO.eprintln e.message
    return 1
  | .ok config =>
    let logged := Settings.openLog tree config.logFile
    try carryOut tree logged catch _ => pure ()
    loop (← IO.getStdin) config.endpoint
      (App.new {directory := config.exportDir, tree := logged})
    return 0

end ProblemVisualizer.Terminal

def main : IO UInt32 := ProblemVisualizer.Terminal.run
