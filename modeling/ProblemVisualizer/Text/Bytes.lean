/-! Texts as bytes.

A character takes one to four bytes in UTF-8. -/
namespace ProblemVisualizer.Text

abbrev Bytes := List UInt8

/-- A text in UTF-8. -/
def encode (s : String) : Bytes := s.toUTF8.data.toList

/-- The text that bytes are in UTF-8, if they are one. -/
def decode? (bytes : Bytes) : Option String := String.fromUTF8? ⟨bytes.toArray⟩

theorem decode?_eq_some_iff {bytes : Bytes} {s : String} :
    decode? bytes = some s ↔ bytes = encode s := by
  constructor
  · intro h
    unfold decode? String.fromUTF8? at h
    split at h
    · obtain rfl := Option.some.inj h
      rfl
    · cases h
  · rintro rfl
    show (if _ : s.toByteArray.IsValidUTF8 then _ else _) = _
    rw [dif_pos s.isValidUTF8]
    rfl

/-- How many bytes a text takes. -/
def byteLength (cs : List Char) : Nat := cs.foldr (fun c n => c.utf8Size + n) 0

theorem byteLength_append (cs ds : List Char) :
    byteLength (cs ++ ds) = byteLength cs + byteLength ds := by
  induction cs with
  | nil => simp [byteLength]
  | cons c cs ih =>
    simp only [byteLength, List.cons_append, List.foldr_cons] at ih ⊢
    omega

/-- The text before and after byte `offset`; nothing when that is inside a character or beyond
the end. -/
def splitAt? : List Char → Nat → Option (List Char × List Char)
  | cs, 0 => some ([], cs)
  | [], _ + 1 => none
  | c :: cs, offset + 1 =>
    if c.utf8Size ≤ offset + 1 then
      (splitAt? cs (offset + 1 - c.utf8Size)).map fun (before, after) => (c :: before, after)
    else none

/-- A text that is two texts in a row can be split where the first one ends. -/
theorem splitAt?_append (cs ds : List Char) :
    splitAt? (cs ++ ds) (byteLength cs) = some (cs, ds) := by
  induction cs with
  | nil => cases ds <;> rfl
  | cons c cs ih =>
    obtain ⟨n, hn⟩ := Nat.exists_eq_add_one.mpr c.utf8Size_pos
    have bytes : byteLength (c :: cs) = n + byteLength cs + 1 := by
      simp only [byteLength, List.foldr_cons]
      omega
    have rest : n + byteLength cs + 1 - c.utf8Size = byteLength cs := by omega
    rw [bytes, List.cons_append, splitAt?, if_pos (by omega), rest, ih]
    rfl

theorem utf8ByteSize_ofList (cs : List Char) : (String.ofList cs).utf8ByteSize = byteLength cs := by
  induction cs with
  | nil => rfl
  | cons c cs ih =>
    rw [String.ofList_cons, String.utf8ByteSize_append, String.utf8ByteSize_singleton, ih]
    rfl

end ProblemVisualizer.Text
