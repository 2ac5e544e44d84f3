/-! The shortest decimal text that reads back as a given binary64 number.

A number `m · 2^q` is what reading gives for every real in an interval around
it. For one digit, two digits and so on, the two decimal neighbours of the
number on that grid are tried; the first grid with a neighbour in the interval
wins, and of two the nearer, or the even one if both are as near. All of it is
exact arithmetic on naturals. -/
namespace ProblemVisualizer.Decimal

/-- A positive fraction. -/
structure Ratio where
  num : Nat
  den : Nat
deriving DecidableEq, Repr

namespace Ratio

/-- The fraction `n · 2^e`. -/
def ofBinary (n : Nat) (e : Int) : Ratio :=
  if 0 ≤ e then ⟨n * Nat.pow 2 e.toNat, 1⟩ else ⟨n, Nat.pow 2 (-e).toNat⟩

/-- The fraction in units of `10^g`. -/
def inUnits (r : Ratio) (g : Int) : Ratio :=
  if 0 ≤ g then ⟨r.num, r.den * Nat.pow 10 g.toNat⟩ else ⟨r.num * Nat.pow 10 (-g).toNat, r.den⟩

def floor (r : Ratio) : Nat := r.num / r.den

def le (r : Ratio) (n : Nat) : Bool := r.num ≤ n * r.den

def ge (r : Ratio) (n : Nat) : Bool := n * r.den ≤ r.num

/-- The nearer of `n` and `n + 1` to a fraction between them; of equally near ones the even. -/
def nearer (v : Ratio) (n : Nat) : Nat :=
  let twice := 2 * v.num
  let middle := (2 * n + 1) * v.den
  if twice < middle then n
  else if middle < twice then n + 1
  else if n % 2 = 0 then n else n + 1

end Ratio

/-- A finite binary64 number without its sign, `significand · 2^exponent`, and the reals that
read back as it: from `low` to `high`, the ends included when the significand is even. -/
structure Binary where
  significand : Nat
  exponent : Int
  narrowBelow : Bool
deriving DecidableEq, Repr

namespace Binary

/-- The magnitude that 64 bits stand for. Below a power of two the next number is only half as
far away. -/
def ofBits (bits : UInt64) : Binary :=
  let fraction := (bits &&& 0xFFFFFFFFFFFFF).toNat
  let exponent := ((bits >>> 52) &&& 0x7FF).toNat
  if exponent = 0 then ⟨fraction, -1074, false⟩
  else ⟨fraction + 0x10000000000000, (exponent : Int) - 1075, fraction = 0 ∧ exponent > 1⟩

def value (b : Binary) : Ratio := .ofBinary b.significand b.exponent

def low (b : Binary) : Ratio :=
  .ofBinary (4 * b.significand - (if b.narrowBelow then 1 else 2)) (b.exponent - 2)

def high (b : Binary) : Ratio := .ofBinary (4 * b.significand + 2) (b.exponent - 2)

/-- Whether `n · 10^g` reads back as the number. -/
def readsBack (b : Binary) (g : Int) (n : Nat) : Bool :=
  let low := b.low.inUnits g
  let high := b.high.inUnits g
  let even := b.significand % 2 = 0
  (low.le n && (even || !low.ge n)) && (high.ge n && (even || !high.le n))

/-- The power of ten of the number's first digit. -/
def magnitude (b : Binary) : Int :=
  let powers := (List.range 634).map fun i : Nat => (309 : Int) - i
  (powers.find? fun k => (b.value.inUnits k).ge 1).getD (-324)

/-- The neighbour of the number on the grid of `10^g` that reads back as it, the nearer one if
both do. -/
def onGrid? (b : Binary) (g : Int) : Option Nat :=
  let v := b.value.inUnits g
  let below := v.floor
  match b.readsBack g below, b.readsBack g (below + 1) with
  | true, false => some below
  | false, true => some (below + 1)
  | true, true => some (v.nearer below)
  | false, false => none

/-- The shortest digits, as a whole number and a power of ten. -/
def shortestDigits (b : Binary) : Nat × Int :=
  let top := b.magnitude
  let grids := (List.range 17).map fun n : Nat => top - (n : Int)
  (grids.findSome? fun g => (b.onGrid? g).map fun n => (n, g)).getD (0, 0)

end Binary

/-- Whole numbers up to this power of ten, and fractions down to the other, are written out;
beyond them an exponent is written. -/
def lastWhole : Int := 15

def firstFraction : Int := -5

/-- An exponent always has its sign. -/
def exponentText (e : Int) : String :=
  "e" ++ (if e < 0 then "-" else "+") ++ toString e.natAbs

def zeros (n : Int) : List Char := List.replicate n.toNat '0'

/-- The text of `n · 10^g`: written out with a digit on both sides of the point, or with one
digit before the point and an exponent. -/
def layout (n : Nat) (g : Int) : String :=
  let all := Nat.toDigits 10 n
  let digits := (all.reverse.dropWhile (· = '0')).reverse
  let top := g + all.length - 1
  if firstFraction ≤ top ∧ top ≤ lastWhole then
    String.ofList <|
      if top < 0 then '0' :: '.' :: (zeros (-top - 1) ++ digits)
      else if (digits.length : Int) ≤ top + 1 then
        digits ++ zeros (top + 1 - digits.length) ++ ['.', '0']
      else digits.take (top + 1).toNat ++ '.' :: digits.drop (top + 1).toNat
  else
    String.ofList (match digits with
      | [d] => [d]
      | d :: rest => d :: '.' :: rest
      | [] => []) ++ exponentText top

/-- The text of the finite number with these bits. -/
def shortest (bits : UInt64) : String :=
  let b := Binary.ofBits bits
  let unsigned := if b.significand = 0 then "0.0" else
    let (n, g) := b.shortestDigits
    layout n g
  if bits >>> 63 = 1 then "-" ++ unsigned else unsigned

end ProblemVisualizer.Decimal
