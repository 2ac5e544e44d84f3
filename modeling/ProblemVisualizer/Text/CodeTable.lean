import ProblemVisualizer.Text.Hex
import ProblemVisualizer.Text.Split

/-! Tables of code points, written as text.

A table says what goes with a code point: the letters it is made of, say, or the
class of a mark. Its rows stand between blanks in ascending order, all numbers
in hexadecimal. `E0:61,300` gives one code point its numbers and `300-314:E6`
those of a whole range the same; in `C0-D6=E0` the number rises with the code
point, and in `100/12E=101` only every second code point of the range has one. -/
namespace ProblemVisualizer.Text

structure CodeRow where
  first : Nat
  last : Nat
  /-- How far the code points of the row lie apart. -/
  step : Nat
  /-- Whether the numbers rise with the code point. -/
  rising : Bool
  numbers : List Nat
deriving DecidableEq, Repr

namespace CodeRow

def ofText (cs : List Char) : CodeRow :=
  let number (cs : List Char) : Nat := (numberIn? 16 cs).getD 0
  let (key, value) := cs.span fun c => c ≠ '=' && c ≠ ':'
  let (first, last) := key.span fun c => c ≠ '-' && c ≠ '/'
  { first := number first
    last := if last = [] then number first else number (last.drop 1)
    step := if last.head? = some '/' then 2 else 1
    rising := value.head? = some '='
    numbers := (splitAll (· = ',') (value.drop 1)).map number }

def covers (r : CodeRow) (n : Nat) : Bool := n ≤ r.last && (n - r.first) % r.step = 0

def numbersAt (r : CodeRow) (n : Nat) : List Nat :=
  if r.rising then r.numbers.map (· + (n - r.first)) else r.numbers

end CodeRow

abbrev CodeTable := List CodeRow

namespace CodeTable

def ofText (s : String) : CodeTable :=
  ((splitAll (fun c => c = ' ' || c = '\n') s.toList).filter (· ≠ [])).map CodeRow.ofText

/-- The numbers of a code point. No row that starts beyond it is looked at. -/
def numbers? : CodeTable → Nat → Option (List Nat)
  | [], _ => none
  | r :: rest, n =>
    if n < r.first then none else if r.covers n then some (r.numbersAt n) else numbers? rest n

/-- The code point that a row of its own gives these numbers. -/
def codeOf? (t : CodeTable) (numbers : List Nat) : Option Nat :=
  (t.find? fun r => r.numbers = numbers).map CodeRow.first

end CodeTable

end ProblemVisualizer.Text
