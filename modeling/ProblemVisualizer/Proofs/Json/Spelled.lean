import ProblemVisualizer.Proofs.Json.Reading

/-! What is read as a string spells a text.

The converse of `string_of_spells`: whenever the reader gives back a text, what it
has read spells that text, escapes and surrogate pairs included. -/
namespace ProblemVisualizer.Json

open Text (hexValue?)

/-! ### Escapes -/

theorem isHex_of_hexValue? {c : Char} {n : Nat} (h : hexValue? c = some n) : IsHex c n := by
  have digits : ∀ k < 10, lowerDigits[k]? = some (Char.ofNat (48 + k)) := by decide
  have lower : ∀ k < 6, lowerDigits[k + 10]? = some (Char.ofNat (97 + k)) := by decide
  have upper : ∀ k < 6, upperDigits[k + 10]? = some (Char.ofNat (65 + k)) := by decide
  have char {k : Nat} (hk : k = c.toNat) : Char.ofNat k = c := by rw [hk, Char.ofNat_toNat]
  unfold hexValue? at h
  simp only [Char.le_def, UInt32.le_iff_toNat_le, Char.toNat_val, Char.reduceToNat] at h
  split at h
  · obtain rfl := Option.some.inj h
    have digit := digits (c.toNat - 48) (by omega)
    rw [char (by omega)] at digit
    exact .inl digit
  split at h
  · obtain rfl := Option.some.inj h
    have digit := lower (c.toNat - 97) (by omega)
    rw [char (by omega)] at digit
    exact .inl digit
  split at h
  · obtain rfl := Option.some.inj h
    have digit := upper (c.toNat - 65) (by omega)
    rw [char (by omega)] at digit
    exact .inr digit
  · cases h

theorem quad_of_unicodeEscape {cs rest : List Char} {n : Nat}
    (h : unicodeEscape cs = .ok (n, rest)) : Quad n cs rest := by
  unfold unicodeEscape at h
  split at h
  · split at h
    · rename_i a b c d _ _ value
      simp only [Except.ok.injEq, Prod.mk.injEq] at h
      obtain ⟨rfl, rfl⟩ := h
      simp only [hexQuad?, bind, Option.bind_eq_some_iff, pure, Option.some.injEq] at value
      obtain ⟨k, hk, l, hl, m, hm, n, hn, rfl⟩ := value
      exact .mk (isHex_of_hexValue? hk) (isHex_of_hexValue? hl) (isHex_of_hexValue? hm)
        (isHex_of_hexValue? hn)
    · cases h
  · split at h <;> cases h

theorem IsHex.lt {c : Char} {n : Nat} (h : IsHex c n) : n < 16 := by
  obtain h | h := h <;> exact (List.getElem?_eq_some_iff.mp h).1

theorem Quad.lt {n : Nat} {cs rest : List Char} (h : Quad n cs rest) : n < 0x10000 := by
  cases h with
  | mk ha hb hc hd =>
    have := ha.lt
    have := hb.lt
    have := hc.lt
    have := hd.lt
    omega

theorem toNat_ofNat_of_valid {n : Nat} (h : n.isValidChar) : (Char.ofNat n).toNat = n := by
  have char : Char.ofNat n = Char.ofNatAux n h := dif_pos h
  rw [char]
  rfl

theorem mem_escapes_of_simpleEscape? {e c : Char} (h : simpleEscape? e = some c) :
    (e, c) ∈ escapes := by
  unfold simpleEscape? at h
  repeat' split at h
  all_goals cases h
  all_goals simp_all [escapes]

theorem trailing_of_trailingEscape {cs rest : List Char} {n : Nat}
    (h : trailingEscape cs = .ok (n, rest)) :
    ∃ mid, cs = '\\' :: 'u' :: mid ∧ Quad n mid rest ∧ isTrailing n = true := by
  unfold trailingEscape at h
  split at h
  · cases h
  · cases h
  · rename_i mid
    split at h
    · cases h
    · rename_i unit
      split at h
      · simp only [Except.ok.injEq, Prod.mk.injEq] at h
        obtain ⟨rfl, rfl⟩ := h
        exact ⟨mid, rfl, quad_of_unicodeEscape unit, by assumption⟩
      · cases h
  · cases h
  · cases h

/-- A code unit that is no half of a pair spells its character. -/
theorem spelling_unit {n : Nat} {cs rest : List Char} (h : Quad n cs rest)
    (notTrailing : isTrailing n = false) (notLeading : isLeading n = false) :
    Spelling (Char.ofNat n) ('\\' :: 'u' :: cs) rest := by
  have small := h.lt
  simp only [isTrailing, isLeading, Bool.and_eq_false_iff, decide_eq_false_iff_not] at *
  have valid : n.isValidChar := by
    unfold Nat.isValidChar
    omega
  exact .unit ((toNat_ofNat_of_valid valid).symm ▸ h)

/-- The two halves of a pair spell its character. -/
theorem spelling_pair {n m : Nat} {cs mid rest : List Char}
    (hn : Quad n cs ('\\' :: 'u' :: mid)) (hm : Quad m mid rest) (leading : isLeading n = true)
    (trailing : isTrailing m = true) : Spelling (pairChar n m) ('\\' :: 'u' :: cs) rest := by
  simp only [isTrailing, isLeading, Bool.and_eq_true, decide_eq_true_eq] at *
  have number : (pairChar n m).toNat = (n - 0xD800) * 0x400 + (m - 0xDC00) + 0x10000 := by
    refine toNat_ofNat_of_valid ?_
    unfold Nat.isValidChar
    omega
  have high : 0xD800 + ((pairChar n m).toNat - 0x10000) / 0x400 = n := by omega
  have low : 0xDC00 + ((pairChar n m).toNat - 0x10000) % 0x400 = m := by omega
  exact .pair (by omega) (high.symm ▸ hn) (low.symm ▸ hm)

theorem spelling_of_escaped {c : Char} {cs rest : List Char} (h : escaped cs = .ok (c, rest)) :
    Spelling c ('\\' :: cs) rest := by
  unfold escaped at h
  split at h
  · cases h
  · split at h
    · cases h
    · rename_i n mid unit
      have quad := quad_of_unicodeEscape unit
      split at h
      · cases h
      · rename_i notTrailing
        split at h
        · rename_i leading
          split at h
          · cases h
          · rename_i m behind second
            simp only [Except.ok.injEq, Prod.mk.injEq] at h
            obtain ⟨rfl, rfl⟩ := h
            obtain ⟨text, rfl, quad', trailing⟩ := trailing_of_trailingEscape second
            exact spelling_pair quad quad' leading trailing
        · rename_i notLeading
          simp only [Except.ok.injEq, Prod.mk.injEq] at h
          obtain ⟨rfl, rfl⟩ := h
          exact spelling_unit quad (by simpa using notTrailing) (by simpa using notLeading)
  · split at h
    · rename_i value
      simp only [Except.ok.injEq, Prod.mk.injEq] at h
      obtain ⟨rfl, rfl⟩ := h
      exact .short (mem_escapes_of_simpleEscape? value)
    · cases h

/-! ### Strings -/

/-- **A string that is read spells what it is read as.** -/
theorem spells_of_string {before cs rest : List Char} {s : String}
    (h : string before cs = .ok (s, rest)) :
    ∃ text, s = String.ofList (before.reverse ++ text) ∧ Spells text cs rest := by
  fun_induction string before cs with
  | case1 => cases h
  | case2 before cs =>
    simp only [Except.ok.injEq, Prod.mk.injEq] at h
    obtain ⟨rfl, rfl⟩ := h
    exact ⟨[], by rw [List.append_nil], .close⟩
  | case3 => cases h
  | case4 before cs c mid escape ih =>
    obtain ⟨text, rfl, spells⟩ := ih h
    refine ⟨c :: text, ?_, .cons (spelling_of_escaped escape) spells⟩
    rw [List.reverse_cons, List.append_assoc, List.singleton_append]
  | case5 => cases h
  | case6 before c cs noQuote noEscape printable ih =>
    obtain ⟨text, rfl, spells⟩ := ih h
    refine ⟨c :: text, ?_, .cons (.plain ⟨?_, ?_, Nat.not_lt.mp printable⟩) spells⟩
    · rw [List.reverse_cons, List.append_assoc, List.singleton_append]
    · rintro rfl
      exact noQuote rfl
    · rintro rfl
      exact noEscape rfl

/-- Reading from the start of a string gives the text that it spells. -/
theorem spells_toList_of_string {cs rest : List Char} {s : String}
    (h : string [] cs = .ok (s, rest)) : Spells s.toList cs rest := by
  obtain ⟨text, rfl, spells⟩ := spells_of_string h
  rwa [List.reverse_nil, List.nil_append, String.toList_ofList]

end ProblemVisualizer.Json
