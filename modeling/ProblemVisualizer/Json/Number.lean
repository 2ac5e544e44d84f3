import ProblemVisualizer.Json.Scan

/-! Numbers in a JSON text.

A number that is only skipped is checked for its form. A number that stands
where a text should be is also valued, because the message shows its value: a
whole number that fits 64 bits as it is, any other as the binary64 number that
scaling its first digits by a power of ten gives. -/
namespace ProblemVisualizer.Json

def isDigit (c : Char) : Bool := '0' ≤ c && c ≤ '9'

def digitValue (c : Char) : Nat := c.toNat - '0'.toNat

def skipDigits (cs : List Char) : List Char := cs.dropWhile isDigit

theorem length_skipDigits_le (cs : List Char) : (skipDigits cs).length ≤ cs.length :=
  (List.dropWhile_sublist isDigit).length_le

/-! ### Skipping -/

/-- Skips an exponent behind its letter. -/
def skipExponent (cs : List Char) : Except Fault (List Char) :=
  let cs := match cs with
    | '+' :: cs => cs
    | '-' :: cs => cs
    | cs => cs
  match cs with
  | [] => .error (.behind .invalidNumber [])
  | c :: cs => if isDigit c then .ok (skipDigits cs) else .error (.ahead .invalidNumber (c :: cs))

/-- Skips a fraction behind its point, and an exponent after it. -/
def skipFraction : List Char → Except Fault (List Char)
  | [] => .error (.ahead .invalidNumber [])
  | c :: cs =>
    if isDigit c then
      match skipDigits cs with
      | 'e' :: cs => skipExponent cs
      | 'E' :: cs => skipExponent cs
      | cs => .ok cs
    else .error (.ahead .invalidNumber (c :: cs))

/-- What may follow the digits before the point. -/
def skipNumberTail : List Char → Except Fault (List Char)
  | '.' :: cs => skipFraction cs
  | 'e' :: cs => skipExponent cs
  | 'E' :: cs => skipExponent cs
  | cs => .ok cs

/-- Skips a number without its sign. A leading zero stands alone. -/
def skipNumber : List Char → Except Fault (List Char)
  | [] => .error (.behind .invalidNumber [])
  | c :: cs =>
    if c = '0' then
      match cs with
      | [] => .ok []
      | d :: cs => if isDigit d then .error (.ahead .invalidNumber (d :: cs))
        else skipNumberTail (d :: cs)
    else if isDigit c then skipNumberTail (skipDigits cs)
    else .error (.ahead .invalidNumber (c :: cs))

theorem length_of_skipExponent {cs rest : List Char} (h : skipExponent cs = .ok rest) :
    rest.length ≤ cs.length := by
  have tail : ∀ ds : List Char, (match ds with
      | [] => Except.error (Fault.behind .invalidNumber [])
      | c :: cs => if isDigit c then Except.ok (skipDigits cs)
        else Except.error (Fault.ahead .invalidNumber (c :: cs))) = .ok rest →
      rest.length ≤ ds.length := by
    intro ds hd
    split at hd
    · simp at hd
    · rename_i c cs
      split at hd
      · simp only [Except.ok.injEq] at hd
        have := length_skipDigits_le cs
        simp only [← hd, List.length_cons]
        omega
      · simp at hd
  unfold skipExponent at h
  split at h
  · have := tail _ h
    simp only [List.length_cons]
    omega
  · have := tail _ h
    simp only [List.length_cons]
    omega
  · exact tail _ h

theorem length_of_skipFraction {cs rest : List Char} (h : skipFraction cs = .ok rest) :
    rest.length ≤ cs.length := by
  unfold skipFraction at h
  split at h
  · simp at h
  · rename_i c cs
    split at h
    · have hd := length_skipDigits_le cs
      split at h
      · rename_i heq
        have := length_of_skipExponent h
        simp only [heq, List.length_cons] at hd ⊢
        omega
      · rename_i heq
        have := length_of_skipExponent h
        simp only [heq, List.length_cons] at hd ⊢
        omega
      · simp only [Except.ok.injEq] at h
        simp only [← h, List.length_cons]
        omega
    · simp at h

theorem length_of_skipNumberTail {cs rest : List Char} (h : skipNumberTail cs = .ok rest) :
    rest.length ≤ cs.length := by
  unfold skipNumberTail at h
  split at h
  · have := length_of_skipFraction h
    simp only [List.length_cons]
    omega
  · have := length_of_skipExponent h
    simp only [List.length_cons]
    omega
  · have := length_of_skipExponent h
    simp only [List.length_cons]
    omega
  · simp only [Except.ok.injEq] at h
    simp [← h]

theorem length_of_skipNumber {cs rest : List Char} (h : skipNumber cs = .ok rest) :
    rest.length < cs.length := by
  unfold skipNumber at h
  split at h
  · simp at h
  · split at h
    · split at h
      · simp only [Except.ok.injEq] at h
        simp [← h]
      · split at h
        · simp at h
        · have := length_of_skipNumberTail h
          simp only [List.length_cons] at this ⊢
          omega
    · split at h
      · rename_i cs _ _
        have := length_of_skipNumberTail h
        have := length_skipDigits_le cs
        simp only [List.length_cons]
        omega
      · simp at h

/-! ### Valuing -/

def maxWord : Nat := 18446744073709551615

/-- Appends the digits that still fit 64 bits; gives the number and the digits left over. -/
def absorb (n : Nat) : List Char → Nat × List Char
  | [] => (n, [])
  | c :: cs =>
    let next := n * 10 + digitValue c
    if next ≤ maxWord then absorb next cs else (n, c :: cs)

def powerOfTen (n : Nat) : Float := Float.ofScientific 1 false n

/-- The number `f · 10^e`, in steps that stay within the table of powers; nothing when it is too
large. Four steps bring every small number to zero. -/
def scale (steps : Nat) (f : Float) (e : Int) : Option Float :=
  if 0 ≤ e then
    if e ≤ 308 then
      let scaled := f * powerOfTen e.toNat
      if scaled.isInf then none else some scaled
    else if f == 0 then some f else none
  else if -308 ≤ e then some (f / powerOfTen (-e).toNat)
  else match steps with
    | 0 => some f
    | steps + 1 => if f == 0 then some f else scale steps (f / powerOfTen 308) (e + 308)

/-- The value of a number that has a fraction, an exponent or too many digits. -/
def floating (negative : Bool) (significand : Nat) (e : Int) (rest : List Char) :
    Except Fault (Found × List Char) :=
  match scale 4 (Float.ofNat significand) e with
  | none => .error (.behind .numberOutOfRange rest)
  | some f => .ok (.floating (if negative then -f else f).toBits, rest)

/-- Reads the digits of an exponent: their value and the text behind them, or, as soon as they
pass 31 bits, the text behind that digit. -/
def exponentDigits (n : Nat) : List Char → Except (List Char) (Nat × List Char)
  | [] => .ok (n, [])
  | c :: cs =>
    if isDigit c then
      let next := n * 10 + digitValue c
      if next < 2147483648 then exponentDigits next cs else .error cs
    else .ok (n, c :: cs)

/-- Values a number from its exponent on; `e` is the power of ten so far. -/
def valueExponent (negative : Bool) (significand : Nat) (e : Int) (cs : List Char) :
    Except Fault (Found × List Char) :=
  let (down, cs) := match cs with
    | '+' :: cs => (false, cs)
    | '-' :: cs => (true, cs)
    | cs => (false, cs)
  match cs with
  | [] => .error (.behind .endInValue [])
  | c :: cs =>
    if isDigit c then
      match exponentDigits (digitValue c) cs with
      | .ok (n, rest) => floating negative significand (if down then e - n else e + n) rest
      | .error rest =>
        if significand ≠ 0 ∧ !down then .error (.behind .numberOutOfRange rest)
        else floating negative 0 0 (skipDigits rest)
    else .error (.ahead .invalidNumber (c :: cs))

/-- Values a number from behind its point on. Digits that no longer fit are dropped. -/
def valueFraction (negative : Bool) (significand : Nat) (e : Int) (cs : List Char) :
    Except Fault (Found × List Char) :=
  let digits := cs.takeWhile isDigit
  let rest := skipDigits cs
  match digits, rest with
  | [], [] => .error (.ahead .endInValue [])
  | [], _ => .error (.ahead .invalidNumber rest)
  | _, _ =>
    let (significand, dropped) := absorb significand digits
    let e := e - ((digits.length - dropped.length : Nat) : Int)
    match rest with
    | 'e' :: rest => valueExponent negative significand e rest
    | 'E' :: rest => valueExponent negative significand e rest
    | _ => floating negative significand e rest

/-- The value of a whole number. A negative one that does not fit, and minus zero, are floating. -/
def whole (negative : Bool) (n : Nat) (rest : List Char) : Except Fault (Found × List Char) :=
  if !negative then .ok (.integer n, rest)
  else if n = 0 ∨ n > 9223372036854775808 then floating true n 0 rest
  else .ok (.integer (-n), rest)

/-- Values a number from the end of its leading digits on. -/
def valueTail (negative : Bool) (digits rest : List Char) : Except Fault (Found × List Char) :=
  let (significand, dropped) := absorb 0 digits
  match rest with
  | '.' :: rest => valueFraction negative significand dropped.length rest
  | 'e' :: rest => valueExponent negative significand dropped.length rest
  | 'E' :: rest => valueExponent negative significand dropped.length rest
  | _ =>
    if dropped.isEmpty then whole negative significand rest
    else floating negative significand dropped.length rest

/-- The value of a number behind its sign. -/
def number (negative : Bool) : List Char → Except Fault (Found × List Char)
  | [] => .error (.behind .endInValue [])
  | c :: cs =>
    if c = '0' then
      match cs with
      | d :: rest => if isDigit d then .error (.ahead .invalidNumber (d :: rest))
        else valueTail negative ['0'] (d :: rest)
      | [] => valueTail negative ['0'] []
    else if isDigit c then
      valueTail negative (c :: cs.takeWhile isDigit) (skipDigits cs)
    else .error (.ahead .invalidNumber (c :: cs))

end ProblemVisualizer.Json
