import ProblemVisualizer.Export.Downloads
import ProblemVisualizer.Proofs.Files.Names
import ProblemVisualizer.Proofs.Files.Trees

/-! Which files are hidden.

A file is hidden if its name is one that the sink may give: the letters are the
system's, the rest is fixed. So what is asked for under any other name lies beside
all hidden files, wherever it is. -/
namespace ProblemVisualizer.Export.Downloads

open Files (Letters Location Path Tree joinPath)
open Files.Tree (Grows)

/-! ### Names -/

/-- The name is one that the sink may give a hidden file. -/
def HiddenName (name : String) : Prop := ∃ letters, name = hiddenName letters

/-- What stands in a name where a hidden name has its letters. -/
def middle (name : String) : List Char := (name.toList.drop 13).take 6

theorem toList_hiddenName (letters : Letters) :
    (hiddenName letters).toList = ".math2visual-".toList ++ letters.chars ++ ".part".toList :=
  String.toList_ofList

theorem middle_hiddenName (letters : Letters) : middle (hiddenName letters) = letters.chars := by
  have front : ".math2visual-".toList.length = 13 := by decide
  rw [middle, toList_hiddenName, List.append_assoc, ← front, List.drop_left, ← letters.length_eq,
    List.take_left]

theorem hiddenName_iff (name : String) : HiddenName name ↔
    name.toList = ".math2visual-".toList ++ middle name ++ ".part".toList ∧
      (middle name).length = 6 ∧ (middle name).all Char.isAlphanum = true := by
  constructor
  · rintro ⟨letters, name_eq⟩
    rw [name_eq, middle_hiddenName]
    exact ⟨toList_hiddenName letters, letters.length_eq, letters.alphanumeric⟩
  · rintro ⟨whole, length_eq, alphanumeric⟩
    let letters : Letters := ⟨middle name, length_eq, alphanumeric⟩
    exact ⟨letters, String.toList_inj.mp (whole.trans (toList_hiddenName letters).symm)⟩

instance : DecidablePred HiddenName := fun name => decidable_of_iff' _ (hiddenName_iff name)

/-- The last of the names is that of a hidden file. -/
def Hides (names : List String) : Prop := ∃ name ∈ names.getLast?, HiddenName name

instance : DecidablePred Hides := fun names =>
  inferInstanceAs (Decidable (∃ name ∈ names.getLast?, HiddenName name))

theorem names_hiddenName (letters : Letters) :
    (Path.ofString (hiddenName letters)).names = [hiddenName letters] := by
  refine Path.names_ofString ?_ ?_
  · intro empty
    have := congrArg String.toList empty
    simp [toList_hiddenName] at this
  · rw [toList_hiddenName]
    have plain : '/' ∉ letters.chars := fun slash =>
      absurd (List.all_eq_true.mp letters.alphanumeric _ slash) (by decide)
    simp [plain]

theorem hides_of_leadsTo {t : Tree} {p : Path} {loc : Location} {dir : String} {letters : Letters}
    (parsed : Path.parse (joinPath dir (hiddenName letters)) = .ok p)
    (leads : t.LeadsTo p loc) : Hides loc := by
  obtain ⟨rfl, -⟩ := Path.parse_eq_ok parsed
  have named := names_hiddenName letters
  refine ⟨hiddenName letters, ?_, letters, rfl⟩
  rw [leads.getLast?_eq, Files.getLast?_names_joinPath dir (by simp [named]), named]
  rfl

/-! ### Places -/

/-- Where the hidden files lie. -/
def hiddenFiles (t : Tree) : List Location :=
  (t.entries.filter fun m => m.2 ≠ .directory ∧ Hides m.1).map Prod.fst

section HiddenFiles

variable {t t' : Tree} {loc : Location}

theorem hides_of_mem_hiddenFiles (h : loc ∈ hiddenFiles t) : Hides loc := by
  obtain ⟨m, hm, rfl⟩ := List.mem_map.mp h
  exact (of_decide_eq_true (List.mem_filter.mp hm).2).2

theorem hiddenFiles_put_of_free (free : t.entry? loc = none) (e : Files.Entry) :
    hiddenFiles (t.put loc e)
      = hiddenFiles t ++ if e ≠ .directory ∧ Hides loc then [loc] else [] := by
  rw [Files.Tree.put_of_free free, hiddenFiles, List.filter_append, List.map_append]
  by_cases h : e ≠ .directory ∧ Hides loc <;> simp [hiddenFiles, h]

theorem hiddenFiles_put_of_not_hides (plain : ¬ Hides loc) (e : Files.Entry) :
    hiddenFiles (t.put loc e) = hiddenFiles t := by
  unfold Files.Tree.put
  split
  · unfold hiddenFiles
    rw [List.filter_map, List.map_map]
    refine congrArg (List.map Prod.fst) (List.filter_congr fun m _ => ?_)
    show decide ((if m.1 = loc then e else m.2) ≠ .directory ∧ Hides m.1) = _
    by_cases at_loc : m.1 = loc
    · simp [at_loc, plain]
    · rw [if_neg at_loc]
  · simp [hiddenFiles, plain]

theorem hiddenFiles_remove (t : Tree) (loc : Location) :
    hiddenFiles (t.remove loc) = (hiddenFiles t).filter (· ≠ loc) := by
  unfold hiddenFiles Files.Tree.remove
  rw [List.filter_map, List.filter_filter, List.filter_filter]
  congr 2
  funext m
  exact Bool.and_comm _ _

theorem hiddenFiles_grows (g : Grows t t') : hiddenFiles t' = hiddenFiles t := by
  induction g with
  | same => rfl
  | directory _ free ih =>
    rw [hiddenFiles_put_of_free free, ih]
    simp

/-- What is written under the name of no hidden file does not lie where one could. -/
theorem not_hides_of_locateForWriting {directory filename : String}
    (plain : ¬ Hides (Path.ofString filename).names)
    (h : t.locateForWriting (joinPath directory filename) = .ok loc) : ¬ Hides loc := by
  obtain ⟨p, parsed, unslashed, leads, -⟩ := Files.Tree.leadsTo_of_locateForWriting h
  obtain ⟨rfl, asked⟩ := Path.parse_eq_ok parsed
  have named : (Path.ofString filename).names ≠ [] := by
    intro unnamed
    rw [Files.slashed_joinPath directory unnamed asked] at unslashed
    cases unslashed
  unfold Hides at plain ⊢
  rwa [leads.getLast?_eq, Files.getLast?_names_joinPath directory named]

end HiddenFiles

end ProblemVisualizer.Export.Downloads
