import ProblemVisualizer.Text.Buffer

/-! The buffer as a zipper.

A zipper is a text cut in two at the cursor, and an edit of it takes or adds a
character at the cut and knows nothing of bytes. `zipper` says that a buffer,
which counts characters and splices bytes, is just that: after any edits it holds
what is before the cut and then what is after it, with the cursor between them,
and every byte offset at which it splices its text is one where a character
starts or the text ends. -/
namespace ProblemVisualizer.Text

/-- A text, cut in two. -/
structure Zipper where
  before : List Char
  after : List Char

namespace Zipper

def ofText (text : String) : Zipper := ⟨text.toList, []⟩

def apply (z : Zipper) : Edit → Zipper
  | .insert c => ⟨z.before ++ [c], z.after⟩
  | .backspace => ⟨z.before.dropLast, z.after⟩
  | .delete => ⟨z.before, z.after.tail⟩
  | .left => ⟨z.before.dropLast, z.before.getLast?.toList ++ z.after⟩
  | .right => ⟨z.before ++ z.after.head?.toList, z.after.tail⟩
  | .home => ⟨[], z.before ++ z.after⟩
  | .toEnd => ⟨z.before ++ z.after, []⟩
  | .set value => ofText value

def run (z : Zipper) : List Edit → Zipper
  | [] => z
  | e :: rest => run (z.apply e) rest

end Zipper

namespace EditBuffer

variable {b : EditBuffer} {z : Zipper} {before after : List Char} {offset : Nat}

/-! ### Places in bytes -/

/-- The byte offset at which an edit puts a character into the text. -/
def putsAt? (b : EditBuffer) : Edit → Option Nat
  | .insert _ => some (b.byteOffset b.cursor)
  | _ => none

/-- The byte offset at which an edit takes a character out of the text. -/
def takesAt? (b : EditBuffer) : Edit → Option Nat
  | .backspace => if b.cursor > 0 then some (b.byteOffset (b.cursor - 1)) else none
  | .delete => if b.cursor < b.length then some (b.byteOffset b.cursor) else none
  | _ => none

/-- At this byte offset a text falls into two: a character starts there, or the text ends. -/
structure Cut (value : String) (offset : Nat) (before after : List Char) : Prop where
  valid : (⟨offset⟩ : String.Pos.Raw).IsValid value
  split : splitAt? value.toList offset = some (before, after)

theorem cut_append (before after : List Char) :
    Cut (String.ofList (before ++ after)) (byteLength before) before after where
  valid := String.Pos.Raw.isValid_iff_exists_append.mpr
    ⟨.ofList before, .ofList after, String.ofList_append, by
      rw [String.rawEndPos, utf8ByteSize_ofList]⟩
  split := by rw [String.toList_ofList, splitAt?_append]

theorem byteOffset_length (text : b.value = String.ofList (before ++ after)) :
    b.byteOffset before.length = byteLength before := by
  rw [byteOffset, text, String.toList_ofList, List.take_left]

theorem length_eq (text : b.value = String.ofList (before ++ after)) :
    b.length = before.length + after.length := by
  rw [length, text, String.length_ofList, List.length_append]

theorem removeAt_append (before after : List Char) (c : Char) :
    removeAt (String.ofList (before ++ c :: after)) (byteLength before)
      = String.ofList (before ++ after) := by
  rw [removeAt, (cut_append before (c :: after)).split]
  rfl

/-! ### One edit -/

/-- The buffer is the two parts of the zipper in a row, with the cursor between them. -/
structure Shows (b : EditBuffer) (z : Zipper) : Prop where
  text : b.value = String.ofList (z.before ++ z.after)
  cursor : b.cursor = z.before.length

/-- An edit that takes a character out leaves what stands before and after it. -/
theorem Shows.takes (h : Shows b z) {e : Edit} (takes : b.takesAt? e = some offset) :
    ∃ before c after, b.value = String.ofList (before ++ c :: after) ∧
      offset = byteLength before ∧ z.apply e = ⟨before, after⟩ ∧
      b.apply e = ⟨String.ofList (before ++ after), before.length⟩ := by
  obtain ⟨left, right⟩ := z
  obtain ⟨text, cursor⟩ := h
  cases e with
  | backspace =>
    simp only [takesAt?, Option.ite_none_right_eq_some, Option.some.injEq] at takes
    obtain ⟨behind, rfl⟩ := takes
    obtain rfl | ⟨before, c, rfl⟩ := List.eq_nil_or_concat left
    · exact absurd cursor (Nat.pos_iff_ne_zero.mp behind)
    · simp only [List.concat_eq_append, List.append_assoc, List.singleton_append] at text cursor
      have place : b.cursor - 1 = before.length := by simp [cursor]
      have offset := byteOffset_length text
      refine ⟨before, c, right, text, by rw [place, offset], ?_, ?_⟩
      · simp [Zipper.apply]
      · simp only [apply, backspace, if_pos behind, place, offset, text, removeAt_append]
  | delete =>
    simp only [takesAt?, Option.ite_none_right_eq_some, Option.some.injEq] at takes
    obtain ⟨inside, rfl⟩ := takes
    dsimp only at text cursor
    have offset := byteOffset_length text
    rw [← cursor] at offset
    cases right with
    | nil =>
      rw [length_eq text, cursor] at inside
      exact absurd inside (Nat.lt_irrefl _)
    | cons c after =>
      refine ⟨left, c, after, text, offset, rfl, ?_⟩
      simp only [apply, delete, if_pos inside, offset]
      rw [text, removeAt_append, cursor]
  | _ => cases takes

/-- An edit that puts a character in puts it between the two parts. -/
theorem Shows.puts (h : Shows b z) {e : Edit} (puts : b.putsAt? e = some offset) :
    ∃ c, e = .insert c ∧ offset = byteLength z.before ∧
      b.apply e = ⟨String.ofList (z.before ++ c :: z.after), z.before.length + 1⟩ := by
  cases e with
  | insert c =>
    have place : b.byteOffset b.cursor = byteLength z.before := by
      rw [h.cursor, byteOffset_length h.text]
    refine ⟨c, rfl, ?_, ?_⟩
    · rw [← place]
      exact (Option.some.inj puts).symm
    · have split := (cut_append z.before z.after).split
      rw [← h.text, ← place] at split
      simp only [apply, insert, split]
      rw [h.cursor]
  | _ => cases puts

theorem backspace_eq_self (untaken : b.takesAt? .backspace = none) : b.backspace = b := by
  have start : ¬ b.cursor > 0 := by simpa [takesAt?] using untaken
  rw [backspace, if_neg start]

theorem delete_eq_self (untaken : b.takesAt? .delete = none) : b.delete = b := by
  have last : ¬ b.cursor < b.length := by simpa [takesAt?] using untaken
  rw [delete, if_neg last]

theorem Shows.left (h : Shows b z) : Shows b.left (z.apply .left) := by
  obtain ⟨before, after⟩ := z
  obtain ⟨text, cursor⟩ := h
  dsimp only at text cursor
  obtain rfl | ⟨front, c, rfl⟩ := List.eq_nil_or_concat before
  · exact ⟨text, by simp [EditBuffer.left, Zipper.apply, cursor]⟩
  · simp only [List.concat_eq_append] at text cursor ⊢
    exact ⟨by simpa [EditBuffer.left, Zipper.apply] using text,
      by simp [EditBuffer.left, Zipper.apply, cursor]⟩

theorem Shows.right (h : Shows b z) : Shows b.right (z.apply .right) := by
  obtain ⟨before, after⟩ := z
  obtain ⟨text, cursor⟩ := id h
  have room := length_eq text
  dsimp only at text cursor room
  unfold EditBuffer.right
  cases after with
  | nil =>
    have last : ¬ b.cursor < b.length := by simp [room, cursor]
    rw [if_neg last]
    exact ⟨by simpa [Zipper.apply] using text, by simpa [Zipper.apply] using cursor⟩
  | cons c rest =>
    have inside : b.cursor < b.length := by simp [room, cursor]
    rw [if_pos inside]
    exact ⟨by simpa [Zipper.apply] using text, by simp [Zipper.apply, cursor]⟩

theorem shows_ofText (text : String) : Shows (ofText text) (Zipper.ofText text) :=
  ⟨by simp [ofText, Zipper.ofText], by simp [ofText, Zipper.ofText, String.length_toList]⟩

/-- **An edit does to the buffer what it does to the zipper.** -/
theorem Shows.apply (h : Shows b z) (e : Edit) : Shows (b.apply e) (z.apply e) := by
  cases taken : b.takesAt? e with
  | some offset =>
    obtain ⟨before, c, after, -, -, shut, left⟩ := h.takes taken
    rw [shut, left]
    exact ⟨rfl, rfl⟩
  | none =>
    cases e with
    | insert c =>
      obtain ⟨_, ⟨⟩, -, put⟩ := h.puts (e := .insert c) rfl
      rw [put]
      exact ⟨by simp [Zipper.apply], by simp [Zipper.apply]⟩
    | backspace =>
      -- Nothing was taken, so nothing stands before the cursor.
      have start : ¬ b.cursor > 0 := by simpa [takesAt?] using taken
      have empty : z.before = [] := List.length_eq_zero_iff.mp (by rw [← h.cursor]; omega)
      have shut : z.apply .backspace = z := by
        rw [Zipper.apply, empty, List.dropLast_nil, ← empty]
      rwa [shut, EditBuffer.apply, backspace_eq_self taken]
    | delete =>
      have last : ¬ b.cursor < b.length := by simpa [takesAt?] using taken
      rw [length_eq h.text, h.cursor] at last
      have empty : z.after = [] := List.length_eq_zero_iff.mp (by omega)
      have shut : z.apply .delete = z := by rw [Zipper.apply, empty, List.tail_nil, ← empty]
      rwa [shut, EditBuffer.apply, delete_eq_self taken]
    | left => exact h.left
    | right => exact h.right
    | home => exact ⟨h.text, rfl⟩
    | toEnd =>
      exact ⟨by simpa [EditBuffer.apply, toEnd, Zipper.apply] using h.text,
        by simp [EditBuffer.apply, toEnd, Zipper.apply, length_eq h.text]⟩
    | set value => exact shows_ofText value

/-! ### Any number of edits -/

theorem Shows.run (h : Shows b z) (edits : List Edit) : Shows (b.run edits) (z.run edits) := by
  induction edits generalizing b z with
  | nil => exact h
  | cons e rest ih => exact ih (h.apply e)

/-- **A buffer is a zipper.** After any edits of any text the buffer holds the two parts of the
zipper in a row, and its cursor counts the characters of the first. Whatever edit comes next, the
byte offset at which it puts a character in is one where the text falls into two, and the offset at
which it takes one out is one where a character starts; the text it leaves has the character more
or less right there. An edit that splices nothing keeps the text, unless it sets another. -/
theorem zipper (text : String) (edits : List Edit) :
    let b := (ofText text).run edits
    let z := (Zipper.ofText text).run edits
    b.value.toList = z.before ++ z.after ∧ b.cursor = z.before.length ∧ b.cursor ≤ b.length ∧
    ∀ e,
      (∀ offset, b.putsAt? e = some offset → ∃ c before after, e = .insert c ∧
        Cut b.value offset before after ∧ (b.apply e).value = String.ofList (before ++ c :: after)) ∧
      (∀ offset, b.takesAt? e = some offset → ∃ c before after, offset < b.value.utf8ByteSize ∧
        Cut b.value offset before (c :: after) ∧
        (b.apply e).value = String.ofList (before ++ after)) ∧
      (b.putsAt? e = none → b.takesAt? e = none →
        (b.apply e).value = b.value ∨ ∃ value, e = .set value ∧ (b.apply e).value = value) := by
  intro b z
  have h : Shows b z := (shows_ofText text).run edits
  refine ⟨by rw [h.text, String.toList_ofList], h.cursor, ?_, fun e =>
    ⟨fun offset puts => ?_, fun offset takes => ?_, fun no_put no_take => ?_⟩⟩
  · rw [h.cursor, length_eq h.text]
    exact Nat.le_add_right _ _
  · obtain ⟨c, rfl, rfl, put⟩ := h.puts puts
    refine ⟨c, z.before, z.after, rfl, ?_, by rw [put]⟩
    rw [h.text]
    exact cut_append _ _
  · obtain ⟨before, c, after, text, rfl, -, taken⟩ := h.takes takes
    refine ⟨c, before, after, ?_, ?_, by rw [taken]⟩
    · rw [text, utf8ByteSize_ofList, byteLength_append]
      exact Nat.lt_add_of_pos_right (Nat.lt_of_lt_of_le c.utf8Size_pos (Nat.le_add_right _ _))
    · rw [text]
      exact cut_append _ _
  · cases e with
    | insert c => cases no_put
    | backspace => exact .inl (congrArg value (backspace_eq_self no_take))
    | delete => exact .inl (congrArg value (delete_eq_self no_take))
    | right => exact .inl (value_right b)
    | set value => exact .inr ⟨value, rfl, rfl⟩
    | _ => exact .inl rfl

end EditBuffer

end ProblemVisualizer.Text
