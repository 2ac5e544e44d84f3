import ProblemVisualizer.Files.Path

/-! A tree of files, as programs see it.

A location is the list of names that lead to it from the root. The tree says
what is at each location; the root is always a directory. Operations take paths,
which they resolve from the working directory, and fail the way a file system
fails: a missing name, a file where a directory should be, a directory where a
file should be, or a name that is too long. -/
namespace ProblemVisualizer.Files

abbrev Location := List String

/-- The absolute path of a location. -/
def pathOf (loc : Location) : String := "/" ++ "/".intercalate loc

inductive Entry where
  | directory
  | file (content : Text.Bytes)
deriving DecidableEq

structure Tree where
  entries : List (Location × Entry) := []
  workingDirectory : Location := []
deriving DecidableEq

namespace Tree

def entry? (t : Tree) (loc : Location) : Option Entry :=
  if loc = [] then some .directory else t.entries.lookup loc

/-- Puts an entry at a location, in place of what was there. -/
def put (t : Tree) (loc : Location) (e : Entry) : Tree :=
  if (t.entries.lookup loc).isSome then
    {t with entries := t.entries.map fun (l, old) => (l, if l = loc then e else old)}
  else {t with entries := t.entries ++ [(loc, e)]}

def remove (t : Tree) (loc : Location) : Tree :=
  {t with entries := t.entries.filter fun (l, _) => l ≠ loc}

/-- The tree with an entry at a location and a directory at each above it. -/
def plant (t : Tree) (loc : Location) (e : Entry) : Tree :=
  let above := (List.range loc.length).map loc.take
  (above.foldl (fun t l => if (t.entry? l).isSome then t else t.put l .directory) t).put loc e

/-- The entries that are new since `before`, or other than they were. -/
def changesSince (t before : Tree) : List (Location × Entry) :=
  t.entries.filter fun (loc, e) => before.entry? loc ≠ some e

def isDirectoryAt (t : Tree) (loc : Location) : Bool := t.entry? loc = some .directory

/-! ### Resolving paths -/

/-- Goes from directory `here` along `names`. -/
def walk (t : Tree) (here : Location) : List String → Except Failure Location
  | [] => .ok here
  | name :: rest =>
    if !t.isDirectoryAt here then .error .notDirectory
    else if name = "." then t.walk here rest
    else if name = ".." then t.walk here.dropLast rest
    else if Text.byteLength name.toList > Path.maxNameBytes then .error .nameTooLong
    else if (t.entry? (here ++ [name])).isSome then t.walk (here ++ [name]) rest
    else .error .notFound

def start (t : Tree) (p : Path) : Location := if p.absolute then [] else t.workingDirectory

/-- Where a path leads if all names on it are there. -/
def locate (t : Tree) (p : Path) : Location :=
  p.names.foldl (fun here name =>
    if name = "." then here else if name = ".." then here.dropLast else here ++ [name]) (t.start p)

/-- Where a path leads. A path that ends with a slash leads to a directory. -/
def resolve (t : Tree) (p : Path) : Except Failure Location :=
  match t.walk (t.start p) p.names with
  | .error e => .error e
  | .ok found => if p.slashed ∧ !t.isDirectoryAt found then .error .notDirectory else .ok found

/-- The directory that holds the last name of a path. -/
def resolveParent (t : Tree) (p : Path) : Except Failure Location :=
  match t.walk (t.start p) p.names.dropLast with
  | .error e => .error e
  | .ok parent => if t.isDirectoryAt parent then .ok parent else .error .notDirectory

def exists? (t : Tree) (path : String) : Bool :=
  match Path.parse path with
  | .error _ => false
  | .ok p => (t.resolve p).toOption.isSome

/-! ### Reading and writing files -/

/-- Where the file that a path leads to lies, and what it holds. -/
def fileAt (t : Tree) (path : String) : Except Failure (Location × Text.Bytes) :=
  match Path.parse path with
  | .error e => .error e
  | .ok p =>
    match t.resolve p with
    | .error e => .error e
    | .ok found =>
      match t.entry? found with
      | some (.file content) => .ok (found, content)
      | some .directory => .error .isDirectory
      | none => .error .notFound

def readBytes (t : Tree) (path : String) : Except Failure Text.Bytes :=
  (t.fileAt path).map Prod.snd

def readText (t : Tree) (path : String) : Except Failure String :=
  match t.readBytes path with
  | .error e => .error e
  | .ok content =>
    match Text.decode? content with
    | some s => .ok s
    | none => .error .notText

/-- Where a file that is opened for writing lies. A directory cannot be opened so, and neither can
a path that could only name one. -/
def locateForWriting (t : Tree) (path : String) : Except Failure Location :=
  match Path.parse path with
  | .error e => .error e
  | .ok p =>
    match p.names.getLast? with
    | none => .error .isDirectory
    | some last =>
      match t.resolveParent p with
      | .error e => .error e
      | .ok parent =>
        if last = "." ∨ last = ".." ∨ p.slashed then .error .isDirectory
        else if Text.byteLength last.toList > Path.maxNameBytes then .error .nameTooLong
        else if t.isDirectoryAt (parent ++ [last]) then .error .isDirectory
        else .ok (parent ++ [last])

/-- Writes a whole file, in place of what it held. -/
def write (t : Tree) (path : String) (content : Text.Bytes) : Except Failure Tree :=
  (t.locateForWriting path).map fun found => t.put found (.file content)

/-- Opens a file for appending: it is there afterwards and holds what it held. -/
def openForAppend (t : Tree) (path : String) : Except Failure Tree :=
  (t.locateForWriting path).map fun found =>
    if (t.entry? found).isSome then t else t.put found (.file [])

/-- Copies the content of a file over another one. That is cut before anything is read, so a file
that is copied over itself ends up empty. -/
def copy (t : Tree) (source target : String) : Except Failure Tree :=
  match t.fileAt source with
  | .error e => .error e
  | .ok (origin, _) =>
    match t.locateForWriting target with
    | .error e => .error e
    | .ok found =>
      let cut := t.put found (.file [])
      match cut.entry? origin with
      | some content => .ok (cut.put found content)
      | none => .ok cut

/-- Takes a file away. -/
def removeFile (t : Tree) (path : String) : Except Failure Tree :=
  (t.fileAt path).map fun (found, _) => t.remove found

/-! ### Making files and directories -/

/-- Where something new can be made: under a name that is free, in a directory. -/
def locateNew (t : Tree) (p : Path) : Except Failure Location :=
  match p.names.getLast? with
  | none => .error .alreadyExists
  | some last =>
    match t.resolveParent p with
    | .error e => .error e
    | .ok parent =>
      if last = "." ∨ last = ".." then .error .alreadyExists
      else if Text.byteLength last.toList > Path.maxNameBytes then .error .nameTooLong
      else if (t.entry? (parent ++ [last])).isSome then .error .alreadyExists
      else .ok (parent ++ [last])

/-- Makes a file that must not be there yet. -/
def createFile (t : Tree) (path : String) (content : Text.Bytes) : Except Failure Tree :=
  match Path.parse path with
  | .error e => .error e
  | .ok p =>
    if p.slashed then .error .isDirectory
    else (t.locateNew p).map fun found => t.put found (.file content)

def makeDirectory (t : Tree) (p : Path) : Except Failure Tree :=
  (t.locateNew p).map fun found => t.put found .directory

def isDirectory (t : Tree) (p : Path) : Bool :=
  match t.resolve p with
  | .ok found => t.isDirectoryAt found
  | .error _ => false

/-- Makes a directory. The names of what it lies in are given last one first; when one of those is
missing they are made before it. A directory that is there already will do. What was made before a
failure stays. -/
def makeDirectories (t : Tree) (p : Path) (outer : List String) : Option Failure × Tree :=
  match t.makeDirectory p with
  | .ok t => (none, t)
  | .error .notFound =>
    match outer with
    | [] => (some .notFound, t)
    | _ :: further =>
      match t.makeDirectories ⟨p.absolute, outer.reverse, false⟩ further with
      | (some e, t) => (some e, t)
      | (none, t) =>
        match t.makeDirectory p with
        | .ok t => (none, t)
        | .error e => if t.isDirectory p then (none, t) else (some e, t)
  | .error e => if t.isDirectory p then (none, t) else (some e, t)

/-- Makes the directory of a path, with all it lies in. The empty path needs none. The path is
taken as it is written, so one that ends in the name `.` asks for a directory that is there. -/
def createDirectory (t : Tree) (path : String) : Option Failure × Tree :=
  if path = "" then (none, t)
  else match Path.parse path with
    | .error e => (some e, t)
    | .ok p => t.makeDirectories p p.components.names.dropLast.reverse

end Tree

end ProblemVisualizer.Files
