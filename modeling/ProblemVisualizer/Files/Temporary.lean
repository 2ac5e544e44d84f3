import ProblemVisualizer.Files.Failure

/-! Temporary files.

The name of a temporary file has six letters in it that nobody can foresee. What
they turn out to be, and whether the device then takes the file's content, is for
the system to say, each time anew. -/
namespace ProblemVisualizer.Files

/-- Six letters or digits. -/
structure Letters where
  chars : List Char
  length_eq : chars.length = 6
  alphanumeric : chars.all Char.isAlphanum = true

theorem isAlphanum_digitChar {d : Nat} (h : d < 10) : (Nat.digitChar d).isAlphanum = true := by
  have all : ∀ d : Fin 10, (Nat.digitChar d).isAlphanum = true := by decide
  exact all ⟨d, h⟩

/-- The last six digits of a number. -/
def Letters.ofNat (n : Nat) : Letters where
  chars := [n / 100000, n / 10000, n / 1000, n / 100, n / 10, n].map fun m => Nat.digitChar (m % 10)
  length_eq := rfl
  alphanumeric := by
    rw [List.all_map, List.all_eq_true]
    exact fun m _ => isAlphanum_digitChar (Nat.mod_lt m (by decide))

/-- What the system brings to one temporary file. -/
structure Draw where
  letters : Letters
  /-- What the device says instead of taking the content. -/
  fault : Option Failure := none

end ProblemVisualizer.Files
