import ProblemVisualizer.Text.Blank
import ProblemVisualizer.Text.Bytes

/-! The text buffer behind a form field.

A buffer is a text and a cursor, counted in characters from the start. The text
itself is spliced at byte offsets, as UTF-8 text is: an edit first turns the
cursor into the offset at which that character starts, and `splitAt?` refuses an
offset that falls inside a character or beyond the end. -/
namespace ProblemVisualizer.Text

structure EditBuffer where
  value : String
  cursor : Nat
deriving DecidableEq, Repr, Inhabited

namespace EditBuffer

/-- A buffer holding `value` with the cursor at its end. -/
def ofText (value : String) : EditBuffer := ⟨value, value.length⟩

def empty : EditBuffer := ofText ""

def length (b : EditBuffer) : Nat := b.value.length

def isBlank (b : EditBuffer) : Bool := Text.isBlank b.value

/-- Where the character at `index` starts, in bytes; the end of the text when there is none. -/
def byteOffset (b : EditBuffer) (index : Nat) : Nat := byteLength (b.value.toList.take index)

/-! ### Edits -/

def insert (c : Char) (b : EditBuffer) : EditBuffer :=
  match splitAt? b.value.toList (b.byteOffset b.cursor) with
  | some (before, after) => ⟨String.ofList (before ++ c :: after), b.cursor + 1⟩
  | none => b

/-- The text without the character that starts at byte `offset`. -/
def removeAt (value : String) (offset : Nat) : String :=
  match splitAt? value.toList offset with
  | some (before, after) => String.ofList (before ++ after.drop 1)
  | none => value

/-- Removes the character before the cursor. -/
def backspace (b : EditBuffer) : EditBuffer :=
  if b.cursor > 0 then ⟨removeAt b.value (b.byteOffset (b.cursor - 1)), b.cursor - 1⟩ else b

/-- Removes the character after the cursor. -/
def delete (b : EditBuffer) : EditBuffer :=
  if b.cursor < b.length then {b with value := removeAt b.value (b.byteOffset b.cursor)} else b

/-! ### Moves -/

def left (b : EditBuffer) : EditBuffer := {b with cursor := b.cursor - 1}

def right (b : EditBuffer) : EditBuffer :=
  if b.cursor < b.length then {b with cursor := b.cursor + 1} else b

theorem value_right (b : EditBuffer) : b.right.value = b.value := by
  unfold right
  split <;> rfl

def home (b : EditBuffer) : EditBuffer := {b with cursor := 0}

def toEnd (b : EditBuffer) : EditBuffer := {b with cursor := b.length}

end EditBuffer

/-- What can be done to a buffer. -/
inductive Edit where
  | insert (c : Char)
  | backspace
  | delete
  | left
  | right
  | home
  | toEnd
  | set (value : String)
deriving DecidableEq, Repr

namespace EditBuffer

def apply (b : EditBuffer) : Edit → EditBuffer
  | .insert c => b.insert c
  | .backspace => b.backspace
  | .delete => b.delete
  | .left => b.left
  | .right => b.right
  | .home => b.home
  | .toEnd => b.toEnd
  | .set value => ofText value

def run (b : EditBuffer) : List Edit → EditBuffer
  | [] => b
  | e :: rest => run (b.apply e) rest

end EditBuffer

end ProblemVisualizer.Text
