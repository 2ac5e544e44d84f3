import ProblemVisualizer.Files.Path

/-! The names of a joined path.

Joining puts the names of the second path behind those of the first, whatever
slashes there are. So a joined path leads to the last name of the second one,
unless that has no name at all; then the joined path ends with a slash. -/
namespace ProblemVisualizer

namespace Text

theorem splitAll_append_separator {p : Char → Bool} {c : Char} (h : p c = true) (cs ds : List Char) :
    splitAll p (cs ++ c :: ds) = splitAll p cs ++ splitAll p ds := by
  induction cs with
  | nil => exact splitAll_cons_separator h ds
  | cons d cs ih =>
    rw [List.cons_append]
    cases hd : p d with
    | true => rw [splitAll_cons_separator hd, splitAll_cons_separator hd, ih, List.cons_append]
    | false =>
      obtain ⟨part, rest, whole, split⟩ := splitAll_cons hd (cs ++ c :: ds)
      obtain ⟨part', rest', whole', split'⟩ := splitAll_cons hd cs
      rw [ih, whole', List.cons_append, List.cons.injEq] at whole
      rw [split, split', List.cons_append, whole.1, whole.2]

theorem splitAll_of_no_separator {p : Char → Bool} {cs : List Char} (h : ∀ c ∈ cs, p c = false) :
    splitAll p cs = [cs] := by
  induction cs with
  | nil => rfl
  | cons c cs ih =>
    obtain ⟨part, rest, whole, split⟩ := splitAll_cons (h c List.mem_cons_self) cs
    rw [ih fun d hd => h d (List.mem_cons_of_mem _ hd), List.cons.injEq] at whole
    rw [split, ← whole.1, ← whole.2]

/-- Where no part holds anything, there are separators only. -/
theorem separator_of_splitAll {p : Char → Bool} {cs : List Char}
    (h : ∀ part ∈ splitAll p cs, part = []) {c : Char} (hc : c ∈ cs) : p c = true := by
  induction cs with
  | nil => cases hc
  | cons d cs ih =>
    cases hd : p d with
    | true =>
      rw [splitAll_cons_separator hd] at h
      cases hc with
      | head => exact hd
      | tail _ hc => exact ih (fun part hp => h part (List.mem_cons_of_mem _ hp)) hc
    | false =>
      obtain ⟨part, rest, -, split⟩ := splitAll_cons hd cs
      rw [split] at h
      exact absurd (h _ List.mem_cons_self) (List.cons_ne_nil _ _)

end Text

namespace Files

namespace Path

theorem parse_eq_ok {s : String} {p : Path} (h : parse s = .ok p) : p = ofString s ∧ s ≠ "" := by
  unfold parse at h
  split at h
  · cases h
  split at h
  · cases h
  rename_i asked
  split at h
  · cases h
  · exact ⟨(Except.ok.inj h).symm, asked⟩

theorem names_append_slash (a b : String) :
    (ofString (a ++ "/" ++ b)).names = (ofString a).names ++ (ofString b).names := by
  have slash : (a ++ "/" ++ b).toList = a.toList ++ '/' :: b.toList := by simp
  simp only [ofString, slash]
  rw [Text.splitAll_append_separator (by decide), List.filter_append, List.map_append]

/-- A text without a slash is one name. -/
theorem names_ofString {s : String} (named : s ≠ "") (plain : '/' ∉ s.toList) :
    (ofString s).names = [s] := by
  have one : Text.splitAll (· = '/') s.toList = [s.toList] := by
    refine Text.splitAll_of_no_separator fun c hc => decide_eq_false ?_
    rintro rfl
    exact plain hc
  have held : s.toList ≠ [] := mt String.toList_eq_nil_iff.mp named
  simp [ofString, one, held]

/-- A text without names is made of slashes. -/
theorem slash_of_names_eq_nil {s : String} (none : (ofString s).names = []) {c : Char}
    (hc : c ∈ s.toList) : c = '/' := by
  have empty : ∀ part ∈ Text.splitAll (· = '/') s.toList, part = [] := by
    simpa [ofString, List.filter_eq_nil_iff] using none
  exact of_decide_eq_true (Text.separator_of_splitAll empty hc)

end Path

open ProblemVisualizer.Files.Path

theorem getLast?_joinPath_nil (dir : String) (h : joinPath dir "" ≠ "") :
    (joinPath dir "").toList.getLast? = some '/' := by
  unfold joinPath at h ⊢
  rw [if_neg (by decide)] at h ⊢
  split
  · rename_i closed
    rw [if_pos closed] at h
    rw [String.append_empty] at h ⊢
    exact closed.resolve_left h
  · simp

/-- A joined path has the names of both, or of the second alone if that is absolute. -/
theorem names_joinPath (dir name : String) :
    ∃ outer, (ofString (joinPath dir name)).names = outer ++ (ofString name).names := by
  unfold joinPath
  split
  · exact ⟨[], rfl⟩
  split
  · rename_i closed
    rcases closed with rfl | closed
    · exact ⟨[], by simp⟩
    · obtain ⟨front, split⟩ := List.getLast?_eq_some_iff.mp closed
      have dir_eq : dir = String.ofList front ++ "/" := by
        rw [← String.toList_inj]
        simpa using split
      rw [dir_eq]
      exact ⟨_, names_append_slash _ name⟩
  · exact ⟨_, names_append_slash dir name⟩

theorem getLast?_names_joinPath (dir : String) {name : String} (named : (ofString name).names ≠ []) :
    (ofString (joinPath dir name)).names.getLast? = (ofString name).names.getLast? := by
  obtain ⟨outer, names⟩ := names_joinPath dir name
  rw [names, List.getLast?_append, List.getLast?_eq_some_getLast named, Option.some_or]

/-- The text that is joined ends the joined one. -/
theorem exists_append_joinPath (dir name : String) :
    ∃ front, (joinPath dir name).toList = front ++ name.toList := by
  unfold joinPath
  split
  · exact ⟨[], rfl⟩
  split
  · exact ⟨_, String.toList_append⟩
  · exact ⟨_, String.toList_append⟩

/-- A path that is joined with a text without names can only lead to a directory. -/
theorem slashed_joinPath (dir : String) {name : String} (unnamed : (ofString name).names = [])
    (asked : joinPath dir name ≠ "") : (ofString (joinPath dir name)).slashed = true := by
  refine decide_eq_true ?_
  by_cases empty : name = ""
  · subst empty
    exact getLast?_joinPath_nil dir asked
  · obtain ⟨front, text⟩ := exists_append_joinPath dir name
    have held : name.toList ≠ [] := mt String.toList_eq_nil_iff.mp empty
    rw [text, List.getLast?_append, List.getLast?_eq_some_getLast held, Option.some_or]
    exact congrArg some (slash_of_names_eq_nil unnamed (List.getLast_mem held))

end Files

end ProblemVisualizer
