import ProblemVisualizer.Json.Fault
import ProblemVisualizer.Text.Hex

/-! The smallest pieces of a JSON text: white space, words and strings.

Each reader takes the unread text and gives back what it read with the text
after it, or a fault. A string that is read must be Unicode text, so surrogate
escapes come in pairs; a string that is only skipped may hold any escapes. -/
namespace ProblemVisualizer.Json

open Text (byteLength hexValue?)

def isWhite (c : Char) : Bool := c = ' ' || c = '\n' || c = '\t' || c = '\r'

def skipWhite (cs : List Char) : List Char := cs.dropWhile isWhite

theorem length_skipWhite_le (cs : List Char) : (skipWhite cs).length ≤ cs.length :=
  (List.dropWhile_sublist isWhite).length_le

/-- Reads the rest of a word such as `null`. -/
def word : List Char → List Char → Except Fault (List Char)
  | [], cs => .ok cs
  | _ :: _, [] => .error (.behind .endInValue [])
  | w :: ws, c :: cs => if c = w then word ws cs else .error (.ahead .expectedIdent (c :: cs))

theorem length_of_word {ws cs rest : List Char} (h : word ws cs = .ok rest) :
    rest.length ≤ cs.length := by
  induction ws generalizing cs with
  | nil =>
    simp only [word, Except.ok.injEq] at h
    simp [h]
  | cons w ws ih =>
    cases cs with
    | nil => simp [word] at h
    | cons c cs =>
      by_cases hc : c = w
      · simp only [word, hc, if_true] at h
        have := ih h
        simp only [List.length_cons]
        omega
      · simp [word, hc] at h

/-! ### Escapes -/

/-- The character that a one-letter escape stands for. -/
def simpleEscape? (c : Char) : Option Char :=
  if c = '"' then some '"'
  else if c = '\\' then some '\\'
  else if c = '/' then some '/'
  else if c = 'b' then some '\x08'
  else if c = 'f' then some '\x0c'
  else if c = 'n' then some '\n'
  else if c = 'r' then some '\r'
  else if c = 't' then some '\t'
  else none

def hexQuad? (a b c d : Char) : Option Nat := do
  return (((← hexValue? a) * 16 + (← hexValue? b)) * 16 + (← hexValue? c)) * 16 + (← hexValue? d)

/-- Four hexadecimal digits. The next four bytes are taken whatever they are; a text that has
fewer of them ends too early. -/
def unicodeEscape : List Char → Except Fault (Nat × List Char)
  | a :: b :: c :: d :: rest =>
    match hexQuad? a b c d with
    | some n => .ok (n, rest)
    | none => .error ⟨.invalidEscape, byteLength (a :: b :: c :: d :: rest) - 4⟩
  | cs =>
    if byteLength cs < 4 then .error ⟨.endInString, 0⟩
    else .error ⟨.invalidEscape, byteLength cs - 4⟩

theorem length_of_unicodeEscape {cs rest : List Char} {n : Nat}
    (h : unicodeEscape cs = .ok (n, rest)) : rest.length < cs.length := by
  unfold unicodeEscape at h
  split at h
  · split at h
    · simp only [Except.ok.injEq, Prod.mk.injEq] at h
      simp only [← h.2, List.length_cons]
      omega
    · simp at h
  · split at h <;> simp at h

def isLeading (n : Nat) : Bool := 0xD800 ≤ n && n ≤ 0xDBFF

def isTrailing (n : Nat) : Bool := 0xDC00 ≤ n && n ≤ 0xDFFF

/-- The character a surrogate pair stands for. -/
def pairChar (leading trailing : Nat) : Char :=
  Char.ofNat ((leading - 0xD800) * 0x400 + (trailing - 0xDC00) + 0x10000)

/-- The second half of a surrogate pair, escape and all. -/
def trailingEscape : List Char → Except Fault (Nat × List Char)
  | [] => .error (.behind .endInString [])
  | '\\' :: [] => .error (.behind .endInString [])
  | '\\' :: 'u' :: cs =>
    match unicodeEscape cs with
    | .error f => .error f
    | .ok (n, rest) =>
      if isTrailing n then .ok (n, rest) else .error (.behind .loneSurrogate rest)
  | '\\' :: cs => .error (.ahead .brokenSurrogatePair cs)
  | cs => .error (.ahead .brokenSurrogatePair cs)

theorem length_of_trailingEscape {cs rest : List Char} {n : Nat}
    (h : trailingEscape cs = .ok (n, rest)) : rest.length < cs.length := by
  unfold trailingEscape at h
  split at h
  · simp at h
  · simp at h
  · split at h
    · simp at h
    · rename_i heq
      split at h
      · simp only [Except.ok.injEq, Prod.mk.injEq] at h
        have := length_of_unicodeEscape heq
        simp only [← h.2, List.length_cons]
        omega
      · simp at h
  · simp at h
  · simp at h

/-- The character an escape stands for; the text begins behind the backslash. -/
def escaped : List Char → Except Fault (Char × List Char)
  | [] => .error (.behind .endInString [])
  | 'u' :: cs =>
    match unicodeEscape cs with
    | .error f => .error f
    | .ok (n, rest) =>
      if isTrailing n then .error (.behind .loneSurrogate rest)
      else if isLeading n then
        match trailingEscape rest with
        | .error f => .error f
        | .ok (m, rest) => .ok (pairChar n m, rest)
      else .ok (Char.ofNat n, rest)
  | c :: cs =>
    match simpleEscape? c with
    | some d => .ok (d, cs)
    | none => .error (.ahead .invalidEscape (c :: cs))

theorem length_of_escaped {cs rest : List Char} {c : Char} (h : escaped cs = .ok (c, rest)) :
    rest.length < cs.length := by
  unfold escaped at h
  split at h
  · simp at h
  · split at h
    · simp at h
    · rename_i heq
      have hu := length_of_unicodeEscape heq
      split at h
      · simp at h
      · split at h
        · split at h
          · simp at h
          · rename_i ht
            have := length_of_trailingEscape ht
            simp only [Except.ok.injEq, Prod.mk.injEq] at h
            simp only [← h.2, List.length_cons]
            omega
        · simp only [Except.ok.injEq, Prod.mk.injEq] at h
          simp only [← h.2, List.length_cons]
          omega
  · split at h
    · simp only [Except.ok.injEq, Prod.mk.injEq] at h
      simp [← h.2]
    · simp at h

/-! ### Strings -/

/-- Reads a string behind its opening quotation mark; `before` is what has been read of it, last
character first. -/
def string (before cs : List Char) : Except Fault (String × List Char) :=
  match cs with
  | [] => .error (.behind .endInString [])
  | '"' :: cs => .ok (String.ofList before.reverse, cs)
  | '\\' :: cs =>
    match _h : escaped cs with
    | .error f => .error f
    | .ok (c, rest) => string (c :: before) rest
  | c :: cs =>
    if c.toNat < 0x20 then .error (.behind .controlCharacter cs) else string (c :: before) cs
termination_by cs.length
decreasing_by
  · have := length_of_escaped _h
    simp only [List.length_cons]
    omega
  · simp

theorem length_of_string {before cs rest : List Char} {s : String}
    (h : string before cs = .ok (s, rest)) : rest.length < cs.length := by
  fun_induction string before cs with
  | case1 => simp at h
  | case2 =>
    simp only [Except.ok.injEq, Prod.mk.injEq] at h
    simp [← h.2]
  | case3 => simp at h
  | case4 before cs c mid heq ih =>
    have := ih h
    have := length_of_escaped heq
    simp only [List.length_cons]
    omega
  | case5 => simp at h
  | case6 before c cs _ _ _ ih =>
    have := ih h
    simp only [List.length_cons]
    omega

/-- Skips an escape behind its backslash. -/
def skipEscape : List Char → Except Fault (List Char)
  | [] => .error (.behind .endInString [])
  | 'u' :: cs =>
    match unicodeEscape cs with
    | .error f => .error f
    | .ok (_, rest) => .ok rest
  | c :: cs => if (simpleEscape? c).isSome then .ok cs else .error (.ahead .invalidEscape (c :: cs))

theorem length_of_skipEscape {cs rest : List Char} (h : skipEscape cs = .ok rest) :
    rest.length < cs.length := by
  unfold skipEscape at h
  split at h
  · simp at h
  · split at h
    · simp at h
    · rename_i heq
      have := length_of_unicodeEscape heq
      simp only [Except.ok.injEq] at h
      simp only [← h, List.length_cons]
      omega
  · split at h
    · simp only [Except.ok.injEq] at h
      simp [← h]
    · simp at h

/-- Skips a string behind its opening quotation mark. -/
def skipString (cs : List Char) : Except Fault (List Char) :=
  match cs with
  | [] => .error (.behind .endInString [])
  | '"' :: cs => .ok cs
  | '\\' :: cs =>
    match _h : skipEscape cs with
    | .error f => .error f
    | .ok rest => skipString rest
  | c :: cs =>
    if c.toNat < 0x20 then .error (.behind .controlCharacter (c :: cs)) else skipString cs
termination_by cs.length
decreasing_by
  · have := length_of_skipEscape _h
    simp only [List.length_cons]
    omega
  · simp

theorem length_of_skipString {cs rest : List Char} (h : skipString cs = .ok rest) :
    rest.length < cs.length := by
  fun_induction skipString cs with
  | case1 => simp at h
  | case2 =>
    simp only [Except.ok.injEq] at h
    simp [← h]
  | case3 => simp at h
  | case4 cs mid heq ih =>
    have := ih h
    have := length_of_skipEscape heq
    simp only [List.length_cons]
    omega
  | case5 => simp at h
  | case6 c cs _ _ _ ih =>
    have := ih h
    simp only [List.length_cons]
    omega

end ProblemVisualizer.Json
