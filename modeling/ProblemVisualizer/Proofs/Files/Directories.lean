import ProblemVisualizer.Proofs.Files.Trees

/-! Which directories are made.

To make the directory of a path, those that are missing on the way are made as well.
`adds_createDirectory` says that nothing else is done, also where it fails half-way:
every entry is as it was, and what is new are directories in free places that the
path leads through. -/
namespace ProblemVisualizer.Files.Tree

variable {t t' u : Tree} {p : Path} {loc : Location} {places others : Location → Prop}

/-! ### Where names lead -/

/-- One name further on. -/
def goTo (here : Location) (name : String) : Location :=
  if name = "." then here else if name = ".." then here.dropLast else here ++ [name]

theorem locate_eq (t : Tree) (p : Path) : t.locate p = p.names.foldl goTo (t.start p) := rfl

theorem Walks.found_eq {here found : Location} {names : List String} (w : t.Walks here names found) :
    found = names.foldl goTo here := by
  induction w with
  | done => rfl
  | stay _ _ ih => exact ih
  | up _ _ ih => exact ih
  | @down here _ name _ _ named _ _ _ ih =>
    have further : goTo here name = here ++ [name] := by simp [goTo, named]
    rw [List.foldl_cons, further]
    exact ih

theorem LeadsTo.locate_eq (l : t.LeadsTo p loc) : t.locate p = loc := by
  obtain @⟨parent, last, names, resolved, named, -⟩ := l
  obtain ⟨front, split⟩ := List.getLast?_eq_some_iff.mp names
  obtain ⟨walks, -⟩ := resolveParent_eq_ok resolved
  rw [split, List.dropLast_concat] at walks
  rw [Tree.locate_eq, split, List.foldl_append, ← walks.found_eq]
  simp [goTo, named]

theorem foldl_goTo_filter (names : List String) (here : Location) :
    (names.filter (· ≠ ".")).foldl goTo here = names.foldl goTo here := by
  induction names generalizing here with
  | nil => rfl
  | cons name rest ih =>
    by_cases stay : name = "."
    · subst stay
      exact ih here
    · rw [List.filter_cons, if_pos (decide_eq_true stay)]
      exact ih _

/-- The names that stay where they are can be left out. -/
theorem locate_components (t : Tree) (p : Path) : t.locate p.components = t.locate p := by
  have start : t.start p.components = t.start p := by
    unfold Tree.start Path.components
    split <;> rfl
  rw [locate_eq, locate_eq, start]
  unfold Path.components
  split
  · rename_i rest names
    rw [names]
    split <;> exact foldl_goTo_filter rest _
  · exact foldl_goTo_filter _ _

theorem locate_congr (same : t'.workingDirectory = t.workingDirectory) (p : Path) :
    t'.locate p = t.locate p := by
  rw [locate_eq, locate_eq, Tree.start, Tree.start, same]

/-- The path leads through the place: some of its first names lead there. -/
def Through (t : Tree) (path : String) (loc : Location) : Prop :=
  ∃ p front, Path.parse path = .ok p ∧ front <+: p.components.names ∧
    t.locate ⟨p.absolute, front, false⟩ = loc

/-! ### What is added -/

/-- The place is as it was; or it was free, is among those given, and there is a directory now. -/
def Spares (t : Tree) (places : Location → Prop) (t' : Tree) (loc : Location) : Prop :=
  t'.entry? loc = t.entry? loc ∨
    t.entry? loc = none ∧ t'.entry? loc = some .directory ∧ places loc

/-- The second tree is the first one with some directories more, in places that were free and are
among those given. -/
structure Adds (t : Tree) (places : Location → Prop) (t' : Tree) : Prop where
  workingDirectory : t'.workingDirectory = t.workingDirectory
  spares : ∀ loc, t.Spares places t' loc

/-- Besides directories that are added, one file is written, over what it held or in a new place. -/
structure Writes (t : Tree) (places : Location → Prop) (target : Location) (content : Text.Bytes)
    (t' : Tree) : Prop where
  workingDirectory : t'.workingDirectory = t.workingDirectory
  taken : t.isDirectoryAt target = false
  written : t'.entry? target = some (.file content)
  spares : ∀ loc ≠ target, t.Spares places t' loc

theorem Adds.refl (t : Tree) (places : Location → Prop) : t.Adds places t :=
  ⟨rfl, fun _ => .inl rfl⟩

theorem Adds.mono (a : t.Adds places t') (within : ∀ loc, places loc → others loc) :
    t.Adds others t' :=
  ⟨a.workingDirectory, fun loc =>
    (a.spares loc).imp_right fun ⟨free, made, place⟩ => ⟨free, made, within loc place⟩⟩

theorem Adds.trans (a : t.Adds places t') (a' : t'.Adds places u) : t.Adds places u where
  workingDirectory := a'.workingDirectory.trans a.workingDirectory
  spares loc := by
    rcases a.spares loc with kept | ⟨free, made, place⟩
    · rw [Spares, ← kept]
      exact a'.spares loc
    · rcases a'.spares loc with kept | ⟨taken, -, -⟩
      · exact .inr ⟨free, kept.trans made, place⟩
      · rw [made] at taken
        cases taken

theorem Adds.keeps (a : t.Adds places t') : Keeps t t' where
  workingDirectory := a.workingDirectory
  directories loc directory := by
    rw [isDirectoryAt_iff] at directory ⊢
    rcases a.spares loc with kept | ⟨-, made, -⟩
    · exact kept.trans directory
    · exact made

/-- A file can be written in what was added to. -/
theorem Adds.writes (a : t.Adds places t') (taken : t'.isDirectoryAt loc = false)
    (content : Text.Bytes) : t.Writes places loc content (t'.put loc (.file content)) where
  workingDirectory := (workingDirectory_put t' loc _).trans a.workingDirectory
  taken := Bool.eq_false_iff.mpr fun before =>
    absurd (a.keeps.directories loc before) (Bool.eq_false_iff.mp taken)
  written := entry?_put_self t' (ne_nil_of_not_isDirectoryAt taken) _
  spares other apart := by
    have same := entry?_put_of_ne t' (ne_nil_of_not_isDirectoryAt taken) (.file content) apart
    rw [Spares, same]
    exact a.spares other

theorem adds_put (free : t.entry? loc = none) : t.Adds (· = loc) (t.put loc .directory) where
  workingDirectory := workingDirectory_put t loc _
  spares other := by
    have named := ne_nil_of_entry?_eq_none free
    by_cases own : other = loc
    · subst own
      exact .inr ⟨free, entry?_put_self t named _, rfl⟩
    · exact .inl (entry?_put_of_ne t named _ own)

theorem adds_makeDirectory (h : t.makeDirectory p = .ok t') : t.Adds (· = t.locate p) t' := by
  unfold makeDirectory at h
  cases located : t.locateNew p with
  | error e => simp [located, Except.map] at h
  | ok loc =>
    obtain rfl : t.put loc .directory = t' := by simpa [located, Except.map] using h
    obtain ⟨leads, free⟩ := leadsTo_of_locateNew located
    rw [leads.locate_eq]
    exact adds_put free

/-- Making the directory of a path adds directories that the path leads through, and does nothing
else even when it fails. -/
theorem adds_createDirectory (t : Tree) (path : String) :
    t.Adds (t.Through path) (t.createDirectory path).2 := by
  unfold createDirectory
  split
  · exact .refl t _
  split
  · exact .refl t _
  rename_i p parsed
  refine makeDirectories_keeps (P := t.Adds (t.Through path)) (Q := fun q => t.Through path (t.locate q))
    (fun {u v q} before through made => ?_) (.refl t _) ⟨p, _, parsed, List.prefix_rfl, ?_⟩
    fun front first => ⟨p, front, parsed, ?_, rfl⟩
  · refine before.trans ((adds_makeDirectory made).mono fun loc same => ?_)
    rw [same, locate_congr before.workingDirectory]
    exact through
  · have unslashed : t.locate ⟨p.absolute, p.components.names, false⟩ = t.locate p.components := by
      unfold Path.components
      split <;> rfl
    exact unslashed.trans (locate_components t p)
  · rw [List.reverse_reverse] at first
    exact first.trans (List.dropLast_prefix _)

end ProblemVisualizer.Files.Tree
