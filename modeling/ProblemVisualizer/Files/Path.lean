import ProblemVisualizer.Files.Failure
import ProblemVisualizer.Text.Bytes
import ProblemVisualizer.Text.Split

/-! Paths.

A path is a text with names between slashes. What it names depends on the names
alone; the text is kept for messages, so joining does not tidy it. -/
namespace ProblemVisualizer.Files

/-- The parts of a path. -/
structure Path where
  /-- Whether the path starts at the root and not at the working directory. -/
  absolute : Bool
  names : List String
  /-- Whether the text ends with a slash. -/
  slashed : Bool
deriving DecidableEq, Repr

namespace Path

def ofString (s : String) : Path where
  absolute := s.toList.head? = some '/'
  names := ((Text.splitAll (· = '/') s.toList).filter (· ≠ [])).map String.ofList
  slashed := s.toList.getLast? = some '/'

/-- The longest path that can be asked for, and the longest name in it, in bytes. -/
def maxBytes : Nat := 4095

def maxNameBytes : Nat := 255

/-- A path as it can be handed to the file system. -/
def parse (s : String) : Except Failure Path :=
  if s.toList.contains '\x00' then .error .zeroInPath
  else if s = "" then .error .notFound
  else if Text.byteLength s.toList > maxBytes then .error .nameTooLong
  else .ok (ofString s)

/-- A path without the names `.`, unless it starts with one. -/
def components (p : Path) : Path :=
  match p.names with
  | "." :: rest =>
    {p with names := if p.absolute then rest.filter (· ≠ ".") else "." :: rest.filter (· ≠ "."),
            slashed := false}
  | names => {p with names := names.filter (· ≠ "."), slashed := false}

/-- The path of what the last name lies in; none for a path without names. -/
def parent? (p : Path) : Option Path :=
  let p := p.components
  if p.names = [] then none else some {p with names := p.names.dropLast}

def toText (p : Path) : String := (if p.absolute then "/" else "") ++ "/".intercalate p.names

end Path

/-- The path of `name` inside `dir`; an absolute name stands for itself. -/
def joinPath (dir name : String) : String :=
  if name.toList.head? = some '/' then name
  else if dir = "" ∨ dir.toList.getLast? = some '/' then dir ++ name
  else dir ++ "/" ++ name

end ProblemVisualizer.Files
