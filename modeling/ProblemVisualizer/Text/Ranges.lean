/-! Sets of code points, as sorted ranges.

A Unicode property is given by its ranges in ascending order, both ends
included. Looking a code point up stops at the first range that starts beyond
it, so the common low characters are settled at once. -/
namespace ProblemVisualizer.Text

abbrev Ranges := List (Nat × Nat)

def Ranges.contain : Ranges → Nat → Bool
  | [], _ => false
  | (first, last) :: rest, n =>
    if n < first then false else if n ≤ last then true else contain rest n

end ProblemVisualizer.Text
