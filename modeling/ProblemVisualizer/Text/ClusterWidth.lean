import ProblemVisualizer.Text.Cluster
import ProblemVisualizer.Text.Width

/-! How many columns a cluster takes on a terminal.

Mostly the columns of its characters together. Emoji sequences differ: a
presentation selector decides between one column and two, a skin tone adds
nothing to its base, and pictographs tied by a joiner count once. So do a few
letters that combine into one sign. A cluster is read from its end, because what
follows a character decides what it adds. -/
namespace ProblemVisualizer.Text

/-- What follows a character inside its cluster, as far as widths depend on it. -/
inductive Following where
  | plain
  /-- A selector that asks for the coloured form, before a joiner or not. -/
  | emojiStyle (joined : Bool)
  /-- A selector that asks for the plain form. -/
  | textStyle
  | skinTone
  | emoji
  /-- A joiner before an emoji. -/
  | joinedEmoji
  /-- A key-cap mark and a joiner before an emoji. -/
  | joinedKeycap
  /-- The end of the spelling of a regional flag before a joiner: its last letters, and the digits
  before those. -/
  | joinedRegion (letters digits : Nat)
  /-- A letter that can be written below another. -/
  | subscribable
deriving DecidableEq, Repr

/-- Khmer letters that have a form below another letter. -/
def subscribableRanges : Ranges :=
  [(0x1780, 0x1782), (0x1784, 0x1787), (0x1789, 0x178C), (0x178E, 0x1793), (0x1795, 0x1798),
   (0x179B, 0x179D), (0x17A0, 0x17A0), (0x17A2, 0x17A2), (0x17A7, 0x17A7), (0x17AB, 0x17AC),
   (0x17AF, 0x17AF)]

/-- Marks nobody sees, which do not come between a letter and the one below it. -/
def invisibleMarkRanges : Ranges :=
  [(0x34F, 0x34F), (0x17B4, 0x17B5), (0x180B, 0x180D), (0x180F, 0x180F), (0x200D, 0x200D),
   (0xFE00, 0xFE0F), (0xE0100, 0xE01EF)]

/-- A character with nothing after it that matters: its columns, and what it is to the one before
it. -/
def loneWidth (c : Char) : Nat × Following :=
  let n := c.toNat
  if isControl c then (1, .plain)
  else (charWidth c,
    if n = 0xFE0F then .emojiStyle false
    else if n = 0xFE0E then .textStyle
    else if isEmojiModifier c then .skinTone
    else if isWideEmoji c then .emoji
    else if subscribableRanges.contain n then .subscribable
    else .plain)

/-- What the spelling of a flag becomes by a letter or digit in front of it, or by the black flag
that it recolours: two letters or three digits name a country, up to four letters a part of it. -/
def extendRegion (n letters digits : Nat) : Option Following :=
  if 0xE0061 ≤ n ∧ n ≤ 0xE007A ∧ digits = 0 ∧ letters < 6 then some (.joinedRegion (letters + 1) 0)
  else if 0xE0030 ≤ n ∧ n ≤ 0xE0039 ∧ (if digits = 0 then letters ≤ 4 else digits < 3) then
    some (.joinedRegion letters (digits + 1))
  else if n = 0x1F3F4 ∧ (digits = 3 ∨ digits = 0 ∧ 3 ≤ letters) then some .emoji
  else none

/-- The columns from `c` on, when those after it are `width` and `following`. -/
def extendWidth (c : Char) : Nat × Following → Nat × Following
  | (width, following) =>
    let n := c.toNat
    let alone := (width + (loneWidth c).1, (loneWidth c).2)
    match following with
    | .plain => alone
    | .emojiStyle joined =>
      if takesEmojiStyle c then (width + if joined then 0 else 2, .emoji) else alone
    | .textStyle =>
      if takesTextStyle c then (width + 1, .plain) else alone
    | .skinTone =>
      if isEmojiModifierBase c then (width, .emoji)
      else if n = 0x200D then (width, .joinedEmoji)
      else alone
    | .emoji => if n = 0x200D then (width, .joinedEmoji) else alone
    | .joinedEmoji =>
      if n = 0xFE0F then (width, .emojiStyle true)
      else if n = 0x20E3 then (width, .joinedKeycap)
      else if n = 0xE007F then (width, .joinedRegion 0 0)
      else if isEmojiModifier c then (width, .skinTone)
      else if isWideEmoji c then (width, .emoji)
      else alone
    | .joinedKeycap => if n = 0xFE0F then (width, .emojiStyle true) else alone
    | .joinedRegion letters digits =>
      match extendRegion n letters digits with
      | some before => (width, before)
      | none => alone
    | .subscribable =>
      if n = 0x17D2 then (width - 1, .plain)
      else if invisibleMarkRanges.contain n then (width, .subscribable)
      else alone

def clusterWidth (cluster : List Char) : Nat :=
  if cluster = ['\r', '\n'] then 1 else (cluster.foldr extendWidth (0, .plain)).1

/-- A cluster of one character takes that character's columns. -/
theorem clusterWidth_singleton (c : Char) (h : isControl c = false) :
    clusterWidth [c] = charWidth c := by
  have : [c] ≠ ['\r', '\n'] := by simp
  simp [clusterWidth, extendWidth, loneWidth, h]

end ProblemVisualizer.Text
