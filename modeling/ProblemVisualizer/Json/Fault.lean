import ProblemVisualizer.Text.Quoted
import ProblemVisualizer.Text.Bytes
import ProblemVisualizer.Decimal.Shortest

/-! What can be wrong with a JSON text, and where.

A reader works on the part of the text it has not read yet. When it gives up it
names a cause and says how many bytes were still unread; the line and the column
of the fault follow from that and the whole text. -/
namespace ProblemVisualizer.Json

/-- A value of the wrong kind, as far as the message shows it. -/
inductive Found where
  | null
  | boolean (b : Bool)
  | integer (n : Int)
  | floating (bits : UInt64)
  | text (s : String)
  | sequence
  | map
deriving DecidableEq, Repr

def Found.describe : Found → String
  | null => "null"
  | boolean b => "boolean `" ++ (if b then "true" else "false") ++ "`"
  | integer n => "integer `" ++ toString n ++ "`"
  | floating bits => "floating point `" ++ Decimal.shortest bits ++ "`"
  | text s => "string " ++ Text.quoted s
  | sequence => "sequence"
  | map => "map"

inductive Cause where
  | endInList
  | endInObject
  | endInString
  | endInValue
  | expectedColon
  | expectedListCommaOrEnd
  | expectedObjectCommaOrEnd
  | expectedIdent
  | expectedValue
  | invalidEscape
  | invalidNumber
  | numberOutOfRange
  | controlCharacter
  | keyNotString
  | loneSurrogate
  | brokenSurrogatePair
  | trailingComma
  | trailingCharacters
  | wrongType (found : Found) (expected : String)
  | duplicateField (name : String)
  | unknownField (name : String) (known : List String)
deriving DecidableEq, Repr

def Cause.message : Cause → String
  | endInList => "EOF while parsing a list"
  | endInObject => "EOF while parsing an object"
  | endInString => "EOF while parsing a string"
  | endInValue => "EOF while parsing a value"
  | expectedColon => "expected `:`"
  | expectedListCommaOrEnd => "expected `,` or `]`"
  | expectedObjectCommaOrEnd => "expected `,` or `\x7d`"
  | expectedIdent => "expected ident"
  | expectedValue => "expected value"
  | invalidEscape => "invalid escape"
  | invalidNumber => "invalid number"
  | numberOutOfRange => "number out of range"
  | controlCharacter => "control character (\\u0000-\\u001F) found while parsing a string"
  | keyNotString => "key must be a string"
  | loneSurrogate => "lone leading surrogate in hex escape"
  | brokenSurrogatePair => "unexpected end of hex escape"
  | trailingComma => "trailing comma"
  | trailingCharacters => "trailing characters"
  | wrongType found expected => "invalid type: " ++ found.describe ++ ", expected " ++ expected
  | duplicateField name => "duplicate field `" ++ name ++ "`"
  | unknownField name known =>
    "unknown field `" ++ name ++ "`, expected one of "
      ++ ", ".intercalate (known.map fun k => "`" ++ k ++ "`")

/-- A cause, and the number of bytes that were unread when it was found. -/
structure Fault where
  cause : Cause
  unread : Nat
deriving DecidableEq, Repr

open Text (byteLength)

namespace Fault

/-- A fault in what has been read: it lies where reading stopped. -/
def behind (cause : Cause) (rest : List Char) : Fault := ⟨cause, byteLength rest⟩

/-- A fault in what comes next: it lies one byte further on, unless the text ends here. -/
def ahead (cause : Cause) (rest : List Char) : Fault := ⟨cause, byteLength rest - 1⟩

/-- The line and the column `offset` bytes into a text. Lines count from one; a column is the
number of bytes since the line began. -/
def locate : List Char → Nat → Nat × Nat → Nat × Nat
  | [], _, position => position
  | _, 0, position => position
  | c :: cs, offset + 1, (line, column) =>
    if c = '\n' then locate cs offset (line + 1, 0)
    else locate cs (offset + 1 - c.utf8Size) (line, column + min (offset + 1) c.utf8Size)

/-- The message for a fault in `whole`. -/
def message (whole : List Char) (f : Fault) : String :=
  let (line, column) := locate whole (byteLength whole - f.unread) (1, 0)
  f.cause.message ++ " at line " ++ toString line ++ " column " ++ toString column

end Fault

end ProblemVisualizer.Json
