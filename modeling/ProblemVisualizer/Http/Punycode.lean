/-! Names of hosts in ASCII.

A label of a host's name that goes beyond ASCII is written with its ASCII
characters first and then, as numbers in base 36, the others in ascending order,
each by its distance from the one before. How many digits a number takes adapts
to the numbers so far. -/
namespace ProblemVisualizer.Http.Punycode

def digit (n : Nat) : Char := if n < 26 then Char.ofNat (97 + n) else Char.ofNat (48 + n - 26)

/-- The least value that needs another digit after this one. -/
def threshold (place bias : Nat) : Nat := min 26 (max 1 (place - bias))

/-- A number from the place `place` on, the lowest digit first. -/
def number (bias place n : Nat) : List Char :=
  let t := threshold place bias
  if n < t then [digit n]
  else digit (t + (n - t) % (36 - t)) :: number bias (place + 36) ((n - t) / (36 - t))
termination_by n
decreasing_by
  have _h : 1 ≤ threshold place bias := by unfold threshold; omega
  exact Nat.lt_of_le_of_lt (Nat.div_le_self ..) (by omega)

def shrink (delta steps : Nat) : Nat × Nat :=
  if delta > 455 then shrink (delta / 35) (steps + 36) else (delta, steps)
termination_by delta

/-- The bias after the number `delta`, which placed the character that makes `count`. -/
def adapt (delta count : Nat) (first : Bool) : Nat :=
  let delta := if first then delta / 700 else delta / 2
  let (delta, steps) := shrink (delta + delta / count) 0
  steps + 36 * delta / (delta + 38)

structure Writer where
  out : List Char
  delta : Nat
  bias : Nat
  /-- How many characters are placed. -/
  placed : Nat

/-- Passes over one character of the label while `n` is being placed. -/
def Writer.pass (basic n : Nat) (w : Writer) (c : Char) : Writer :=
  if c.toNat < n then {w with delta := w.delta + 1}
  else if c.toNat = n then
    { out := w.out ++ number w.bias 36 w.delta
      delta := 0
      bias := adapt w.delta (w.placed + 1) (w.placed = basic)
      placed := w.placed + 1 }
  else w

/-- Places characters, given in ascending order; all below `next` are placed. -/
def Writer.place (basic : Nat) (label : List Char) (w : Writer) (next : Nat) : List Nat → Writer
  | [] => w
  | n :: rest =>
    let w := {w with delta := w.delta + (n - next) * (w.placed + 1)}
    let w := label.foldl (Writer.pass basic n) w
    place basic label {w with delta := w.delta + 1} (n + 1) rest

def encode (label : List Char) : List Char :=
  let basic := label.filter fun c => c.toNat < 0x80
  let others := ((label.filter fun c => c.toNat ≥ 0x80).map Char.toNat).mergeSort.eraseDups
  let start : Writer := ⟨if basic.isEmpty then [] else basic ++ ['-'], 0, 72, basic.length⟩
  (start.place basic.length label 0x80 others).out

/-! ### Reading -/

def digitValue? (c : Char) : Option Nat :=
  if 'a' ≤ c ∧ c ≤ 'z' then some (c.toNat - 97)
  else if 'A' ≤ c ∧ c ≤ 'Z' then some (c.toNat - 65)
  else if '0' ≤ c ∧ c ≤ '9' then some (c.toNat - 48 + 26)
  else none

/-- Numbers and the weights of their digits stay below this. -/
def limit : Nat := 0x100000000

/-- Reads a number from the place `place` on, whose digits there count `weight` each: the number
and what follows it. -/
def number? (bias place weight value : Nat) : List Char → Option (Nat × List Char)
  | [] => none
  | c :: cs =>
    match digitValue? c with
    | none => none
    | some d =>
      let t := threshold place bias
      let value := value + d * weight
      if value ≥ limit then none
      else if d < t then some (value, cs)
      else if weight * (36 - t) ≥ limit then none
      else number? bias (place + 36) (weight * (36 - t)) value cs

theorem length_lt_of_number? {bias place weight value n : Nat} {cs rest : List Char}
    (h : number? bias place weight value cs = some (n, rest)) : rest.length < cs.length := by
  induction cs generalizing place weight value with
  | nil => simp [number?] at h
  | cons c cs ih =>
    unfold number? at h
    split at h
    · simp at h
    · dsimp only at h
      split at h
      · simp at h
      · split at h
        · simp only [Option.some.injEq, Prod.mk.injEq] at h
          simp [← h.2]
        · split at h
          · simp at h
          · have := ih h
            simp only [List.length_cons]
            omega

def scalar? (n : Nat) : Option Char := if n.isValidChar then some (Char.ofNat n) else none

/-- Reads the numbers that place the other characters among those placed so far. The next one is a
distance from the character `next` at `position`. -/
def placeAll? (placed : List Char) (next position bias : Nat) (cs : List Char) :
    Option (List Char) :=
  if cs = [] then some placed
  else match h : number? bias 36 1 0 cs with
    | none => none
    | some (delta, rest) =>
      have : rest.length < cs.length := length_lt_of_number? h
      let count := placed.length + 1
      let next := next + (position + delta) / count
      let place := (position + delta) % count
      match scalar? next with
      | none => none
      | some c =>
        placeAll? (placed.take place ++ c :: placed.drop place) next (place + 1)
          (adapt delta count (position = 0)) rest
termination_by cs.length

/-- The label that is written so. What stands before the last hyphen stands for itself. -/
def decode? (cs : List Char) : Option (List Char) :=
  match cs.reverse.span (· ≠ '-') with
  | (numbers, '-' :: basic) =>
    if basic = [] then none else placeAll? basic.reverse 0x80 0 72 numbers.reverse
  | _ => placeAll? [] 0x80 0 72 cs

end ProblemVisualizer.Http.Punycode
