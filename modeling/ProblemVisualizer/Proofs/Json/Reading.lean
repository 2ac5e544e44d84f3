import ProblemVisualizer.Proofs.Json.Grammar

/-! The reader on texts that are JSON.

One lemma for each kind of phrase: on such a phrase followed by `rest`, the
reader succeeds and stands before `rest`. A number ends where its digits end, so
what follows it must not go on with one; nothing that may follow a value does. -/
namespace ProblemVisualizer.Json

open Text (hexValue?)

/-- What holds of each character of a list is checked one by one. -/
theorem forall_mem_of_all {cs : List Char} {P : Char → Prop} [DecidablePred P]
    (h : (cs.all fun c => decide (P c)) = true) : ∀ c ∈ cs, P c := fun c hc =>
  of_decide_eq_true (List.all_eq_true.mp h c hc)

/-! ### White space -/

theorem isWhite_of_mem {c : Char} (h : c ∈ [' ', '\n', '\t', '\r']) : isWhite c = true := by
  simp only [List.mem_cons, List.not_mem_nil, or_false] at h
  rcases h with rfl | rfl | rfl | rfl <;> rfl

theorem skipWhite_of_blank {cs rest : List Char} (h : Blank cs rest) :
    skipWhite cs = skipWhite rest := by
  induction h with
  | none => rfl
  | cons hc _ ih =>
    rw [← ih]
    exact List.dropWhile_cons_of_pos (isWhite_of_mem hc)

theorem skipWhite_cons {c : Char} (h : isWhite c = false) (cs : List Char) :
    skipWhite (c :: cs) = c :: cs :=
  List.dropWhile_cons_of_neg (by simp [h])

theorem skipWhite_to {c : Char} {cs rest : List Char} (h : Blank cs (c :: rest))
    (hc : isWhite c = false) : skipWhite cs = c :: rest := by
  rw [skipWhite_of_blank h, skipWhite_cons hc]

/-! ### Escapes -/

theorem hexValue?_of_isHex {c : Char} {n : Nat} (h : IsHex c n) : hexValue? c = some n := by
  have lower : ∀ i : Fin 16, hexValue? lowerDigits[i] = some i.val := by decide
  have upper : ∀ i : Fin 16, hexValue? upperDigits[i] = some i.val := by decide
  obtain h | h := h
  · obtain ⟨hn, rfl⟩ := List.getElem?_eq_some_iff.mp h
    exact lower ⟨n, hn⟩
  · obtain ⟨hn, rfl⟩ := List.getElem?_eq_some_iff.mp h
    exact upper ⟨n, hn⟩

theorem unicodeEscape_of_quad {n : Nat} {cs rest : List Char} (h : Quad n cs rest) :
    unicodeEscape cs = .ok (n, rest) := by
  cases h with
  | mk ha hb hc hd =>
    simp [unicodeEscape, hexQuad?, hexValue?_of_isHex ha, hexValue?_of_isHex hb,
      hexValue?_of_isHex hc, hexValue?_of_isHex hd]

theorem simpleEscape?_of_mem {e c : Char} (h : (e, c) ∈ escapes) : simpleEscape? e = some c := by
  have all : ∀ p ∈ escapes, simpleEscape? p.1 = some p.2 := by decide
  exact all _ h

theorem letter_ne_u {e c : Char} (h : (e, c) ∈ escapes) : e ≠ 'u' := by
  have all : ∀ p ∈ escapes, p.1 ≠ 'u' := by decide
  exact all _ h

/-- A code unit that is a character's number is no half of a surrogate pair. -/
theorem not_surrogate (c : Char) : isTrailing c.toNat = false ∧ isLeading c.toNat = false := by
  have := c.valid
  simp only [UInt32.isValidChar, Nat.isValidChar] at this
  simp only [isTrailing, isLeading, Char.toNat, Bool.and_eq_false_iff, decide_eq_false_iff_not]
  omega

theorem pairChar_halves (c : Char) (h : 0x10000 ≤ c.toNat) :
    pairChar (0xD800 + (c.toNat - 0x10000) / 0x400) (0xDC00 + (c.toNat - 0x10000) % 0x400) = c := by
  have : (0xD800 + (c.toNat - 0x10000) / 0x400 - 0xD800) * 0x400
      + (0xDC00 + (c.toNat - 0x10000) % 0x400 - 0xDC00) + 0x10000 = c.toNat := by omega
  rw [pairChar, this, Char.ofNat_toNat]

theorem isLeading_half (c : Char) (h : 0x10000 ≤ c.toNat) :
    isLeading (0xD800 + (c.toNat - 0x10000) / 0x400) = true
      ∧ isTrailing (0xD800 + (c.toNat - 0x10000) / 0x400) = false := by
  have := c.valid
  simp only [UInt32.isValidChar, Nat.isValidChar] at this
  simp only [isLeading, isTrailing, Char.toNat, Bool.and_eq_true, Bool.and_eq_false_iff,
    decide_eq_true_eq, decide_eq_false_iff_not] at *
  omega

theorem isTrailing_half (c : Char) :
    isTrailing (0xDC00 + (c.toNat - 0x10000) % 0x400) = true := by
  simp only [isTrailing, Bool.and_eq_true, decide_eq_true_eq]
  omega

theorem escaped_short {e c : Char} (h : (e, c) ∈ escapes) (rest : List Char) :
    escaped (e :: rest) = .ok (c, rest) := by
  rw [escaped.eq_def]
  simp [letter_ne_u h, simpleEscape?_of_mem h]

theorem escaped_unit {c : Char} {cs rest : List Char} (h : Quad c.toNat cs rest) :
    escaped ('u' :: cs) = .ok (c, rest) := by
  simp [escaped, unicodeEscape_of_quad h, not_surrogate c]

theorem escaped_pair {c : Char} {cs mid rest : List Char} (hc : 0x10000 ≤ c.toNat)
    (h : Quad (0xD800 + (c.toNat - 0x10000) / 0x400) cs ('\\' :: 'u' :: mid))
    (h' : Quad (0xDC00 + (c.toNat - 0x10000) % 0x400) mid rest) :
    escaped ('u' :: cs) = .ok (c, rest) := by
  simp [escaped, trailingEscape, unicodeEscape_of_quad h, unicodeEscape_of_quad h',
    isLeading_half c hc, isTrailing_half c, pairChar_halves c hc]

/-! ### Strings -/

theorem string_escape {c : Char} {cs rest : List Char} (h : escaped cs = .ok (c, rest))
    (before : List Char) : string before ('\\' :: cs) = string (c :: before) rest := by
  rw [string.eq_def]
  simp only
  split
  · simp_all
  · simp_all

theorem string_of_spelling {c : Char} {cs rest : List Char} (h : Spelling c cs rest)
    (before : List Char) : string before cs = string (c :: before) rest := by
  cases h with
  | plain hc =>
    obtain ⟨hq, hb, hl⟩ := hc
    rw [string.eq_def]
    simp [Nat.not_lt.mpr hl]
  | short he => exact string_escape (escaped_short he _) before
  | unit hn => exact string_escape (escaped_unit hn) before
  | pair hc hn hm => exact string_escape (escaped_pair hc hn hm) before

/-- A string that spells a text is read as that text. -/
theorem string_of_spells {text cs rest : List Char} (h : Spells text cs rest)
    (before : List Char) :
    string before cs = .ok (String.ofList (before.reverse ++ text), rest) := by
  induction h generalizing before with
  | close => simp [string]
  | cons hc _ ih => rw [string_of_spelling hc, ih, List.reverse_cons, List.append_assoc]; rfl

theorem string_of_text {s : String} {cs rest : List Char} (h : Spells s.toList cs rest) :
    string [] cs = .ok (s, rest) := by
  rw [string_of_spells h, List.reverse_nil, List.nil_append, String.ofList_toList]

theorem skipEscape_short {e c : Char} (h : (e, c) ∈ escapes) (rest : List Char) :
    skipEscape (e :: rest) = .ok rest := by
  rw [skipEscape.eq_def]
  simp [letter_ne_u h, simpleEscape?_of_mem h]

theorem skipEscape_unit {n : Nat} {cs rest : List Char} (h : Quad n cs rest) :
    skipEscape ('u' :: cs) = .ok rest := by
  simp [skipEscape, unicodeEscape_of_quad h]

theorem skipString_escape {cs rest : List Char} (h : skipEscape cs = .ok rest) :
    skipString ('\\' :: cs) = skipString rest := by
  rw [skipString.eq_def]
  simp only
  split
  · simp_all
  · simp_all

/-- Any string is skipped. -/
theorem skipString_of_characters {cs rest : List Char} (h : Characters cs rest) :
    skipString cs = .ok rest := by
  induction h with
  | close => simp [skipString]
  | plain hc _ ih =>
    obtain ⟨hq, hb, hl⟩ := hc
    rw [skipString.eq_def]
    simp [Nat.not_lt.mpr hl, ih]
  | short he _ ih => rw [skipString_escape (skipEscape_short he _), ih]
  | unit hn _ ih => rw [skipString_escape (skipEscape_unit hn), ih]

/-! ### Numbers -/

/-- The text does not begin with a digit. -/
def Stops (cs : List Char) : Prop := ∀ c ∈ cs.head?, isDigit c = false

theorem isDigit_of_mem {d : Char} (h : d ∈ lowerDigits.take 10) : isDigit d = true := by
  have all : ∀ d ∈ lowerDigits.take 10, isDigit d = true := forall_mem_of_all (by decide)
  exact all d h

theorem skipDigits_of_stops {cs : List Char} (h : Stops cs) : skipDigits cs = cs := by
  cases cs with
  | nil => rfl
  | cons c cs => exact List.dropWhile_cons_of_neg (by simp [h c rfl])

/-- Digits begin with a digit, and skipping the others leads behind them all. -/
theorem skipDigits_of_digits {cs rest : List Char} (h : Digits cs rest) (hr : Stops rest) :
    ∃ d ds, cs = d :: ds ∧ isDigit d = true ∧ skipDigits ds = rest := by
  induction h with
  | one hd => exact ⟨_, _, rfl, isDigit_of_mem hd, skipDigits_of_stops hr⟩
  | cons hd _ ih =>
    obtain ⟨d, ds, rfl, hd', hs⟩ := ih hr
    refine ⟨_, _, rfl, isDigit_of_mem hd, ?_⟩
    rw [← hs]
    exact List.dropWhile_cons_of_pos hd'

theorem skipExponent_cons {d : Char} (hd : isDigit d = true) (ds : List Char) :
    skipExponent (d :: ds) = .ok (skipDigits ds) := by
  have plus : d ≠ '+' := by rintro rfl; exact absurd hd (by decide)
  have minus : d ≠ '-' := by rintro rfl; exact absurd hd (by decide)
  unfold skipExponent
  split
  · simp_all
  · simp_all
  · simp only [hd, if_true]

theorem skipExponent_sign {s d : Char} (hs : s ∈ ['+', '-']) (hd : isDigit d = true)
    (ds : List Char) : skipExponent (s :: d :: ds) = .ok (skipDigits ds) := by
  simp only [List.mem_cons, List.not_mem_nil, or_false] at hs
  obtain rfl | rfl := hs <;> simp [skipExponent, hd]

/-- No number goes on here. -/
def Ends (cs : List Char) : Prop := ∀ c ∈ cs.head?, isDigit c = false ∧ c ∉ ['.', 'e', 'E']

theorem Ends.stops {cs : List Char} (h : Ends cs) : Stops cs := fun c hc => (h c hc).1

theorem skipNumberTail_exponent {e : Char} (he : e ∈ ['e', 'E']) (cs : List Char) :
    skipNumberTail (e :: cs) = skipExponent cs := by
  simp only [List.mem_cons, List.not_mem_nil, or_false] at he
  obtain rfl | rfl := he <;> rfl

theorem stops_of_exponent {cs rest : List Char} (h : Exponent cs rest) (hr : Ends rest) :
    Stops cs ∧ cs.head? ≠ some '.' := by
  have letter : ∀ e ∈ ['e', 'E'], isDigit e = false ∧ e ≠ '.' := forall_mem_of_all (by decide)
  cases h with
  | absent => exact ⟨hr.stops, fun hp => by simpa using (hr '.' hp).2⟩
  | digits he _ =>
    exact ⟨fun c hc => Option.some.inj hc ▸ (letter _ he).1,
      fun hp => (letter _ he).2 (Option.some.inj hp)⟩
  | signed he _ _ =>
    exact ⟨fun c hc => Option.some.inj hc ▸ (letter _ he).1,
      fun hp => (letter _ he).2 (Option.some.inj hp)⟩

theorem skipNumberTail_of_exponent {cs rest : List Char} (h : Exponent cs rest)
    (hr : Ends rest) : skipNumberTail cs = .ok rest := by
  cases h with
  | absent =>
    unfold skipNumberTail
    split
    · exact absurd (hr '.' rfl).2 (by decide)
    · exact absurd (hr 'e' rfl).2 (by decide)
    · exact absurd (hr 'E' rfl).2 (by decide)
    · rfl
  | digits he hds =>
    obtain ⟨d, ds, rfl, hd, hs⟩ := skipDigits_of_digits hds hr.stops
    rw [skipNumberTail_exponent he, skipExponent_cons hd, hs]
  | signed he hsign hds =>
    obtain ⟨d, ds, rfl, hd, hs⟩ := skipDigits_of_digits hds hr.stops
    rw [skipNumberTail_exponent he, skipExponent_sign hsign hd, hs]

/-- Behind the digits of a fraction comes what comes behind the digits before the point, but for
another fraction. -/
theorem skipFraction_cons {d : Char} {ds : List Char} (hd : isDigit d = true)
    (hp : (skipDigits ds).head? ≠ some '.') :
    skipFraction (d :: ds) = skipNumberTail (skipDigits ds) := by
  unfold skipFraction
  simp only [hd, if_true]
  generalize skipDigits ds = cs at hp
  split
  · rfl
  · rfl
  · unfold skipNumberTail
    split <;> simp_all

theorem stops_of_fraction {cs mid rest : List Char} (h : Fraction cs mid)
    (he : Exponent mid rest) (hr : Ends rest) : Stops cs := by
  cases h with
  | absent => exact (stops_of_exponent he hr).1
  | digits _ => exact fun c hc => Option.some.inj hc ▸ (by decide)

theorem skipNumberTail_of_fraction {cs mid rest : List Char} (h : Fraction cs mid)
    (he : Exponent mid rest) (hr : Ends rest) : skipNumberTail cs = .ok rest := by
  cases h with
  | absent => exact skipNumberTail_of_exponent he hr
  | digits hf =>
    obtain ⟨stops, hp⟩ := stops_of_exponent he hr
    obtain ⟨d, ds, rfl, hd, rfl⟩ := skipDigits_of_digits hf stops
    exact (skipFraction_cons hd hp).trans (skipNumberTail_of_exponent he hr)

theorem skipNumber_of_whole {cs a b rest : List Char} (h : Whole cs a) (hf : Fraction a b)
    (he : Exponent b rest) (hr : Ends rest) : skipNumber cs = .ok rest := by
  have stops := stops_of_fraction hf he hr
  have tail := skipNumberTail_of_fraction hf he hr
  cases h with
  | zero =>
    cases a with
    | nil => simpa [skipNumber, skipNumberTail] using tail
    | cons d ds => simpa [skipNumber, stops d rfl] using tail
  | digits hz hw =>
    obtain ⟨d, ds, hc, hd, rfl⟩ := skipDigits_of_digits hw stops
    obtain ⟨rfl, rfl⟩ := List.cons.inj hc
    simpa [skipNumber, hz, hd] using tail

end ProblemVisualizer.Json
