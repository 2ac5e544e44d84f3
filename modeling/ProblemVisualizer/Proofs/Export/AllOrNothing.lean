import ProblemVisualizer.Proofs.Export.Safekeeping
import ProblemVisualizer.Proofs.Files.Directories

/-! Saving is all or nothing.

To save a drawing the sink makes its directory, hides the bytes there, copies them
over the file that is asked for and takes the hidden file away. Each of these can
fail. `all_or_nothing` says what is there in the end: the file with just these bytes,
or nothing of it, and nothing else but the directory either way. It holds whatever
the sink was asked before and whatever others do to the tree between two requests;
all it takes of the past is that no reference is handed out twice (`Numbered`). -/
namespace ProblemVisualizer.Export.Downloads

open Files (Draw Failure Location Path Tree joinPath)
open Files.Tree (Keeps)
open Text (Bytes)

/-! ### References that are still to come -/

/-- How a sink comes about: it is new, it was asked something, or others changed the tree. -/
inductive Used : Downloads → Prop where
  | new (directory : String) (tree : Tree) (draws : Nat → Draw) : Used {directory, tree, draws}
  | asked {d : Downloads} (used : Used d) (s : Step) : Used (d.perform s).2
  | meanwhile {d : Downloads} (used : Used d) (tree : Tree) : Used {d with tree}

/-- Every live reference has a number that was handed out. -/
def Numbered (d : Downloads) : Prop := ∀ m ∈ d.staged, ∃ n ≤ d.issued, m.1 = reference n

namespace Numbered

variable {d : Downloads}

theorem stage (h : Numbered d) (blob : Blob) : Numbered (d.stage blob).2 := by
  have stages := stages_stage d blob
  generalize d.stage blob = r at stages ⊢
  cases stages with
  | refused => exact h
  | hidden =>
    intro m hm
    rcases List.mem_append.mp hm with old | new
    · obtain ⟨n, issued, named⟩ := h m old
      exact ⟨n, Nat.le_succ_of_le issued, named⟩
    · obtain rfl := List.mem_singleton.mp new
      exact ⟨_, Nat.le_refl _, rfl⟩

theorem deliver (h : Numbered d) (ref : Reference) (filename : String) :
    Numbered (d.deliver ref filename).2 := by
  obtain ⟨tree, delivered⟩ := exists_deliver_eq d ref filename
  rw [delivered]
  exact h

theorem revoke (h : Numbered d) (ref : Reference) : Numbered (d.revoke ref) := by
  unfold Downloads.revoke
  split
  · exact h
  · exact fun m hm => h m (List.mem_filter.mp hm).1

theorem save (h : Numbered d) (markup filename : String) :
    Numbered (Export.save markup filename d).2 := by
  have after := h.stage (.svg markup)
  cases staged : d.stage (.svg markup) with
  | mk answer d' =>
    rw [staged] at after
    cases answer with
    | error e =>
      rw [save_of_failed staged]
      exact after
    | ok ref =>
      rw [save_of_staged staged]
      exact (after.deliver ref filename).revoke ref

theorem perform (h : Numbered d) : ∀ s, Numbered (d.perform s).2
  | .stage blob => h.stage blob
  | .deliver ref filename => h.deliver ref filename
  | .revoke ref => h.revoke ref
  | .save markup filename => h.save markup filename

theorem fresh (h : Numbered d) : ∀ m ∈ d.staged, m.1 ≠ reference (d.issued + 1) := by
  intro m hm same
  obtain ⟨n, issued, named⟩ := h m hm
  exact Nat.ne_of_lt (Nat.lt_succ_of_le issued) (reference_inj (named.symm.trans same))

end Numbered

theorem Used.numbered {d : Downloads} (used : Used d) : Numbered d := by
  induction used with
  | new => exact nofun
  | asked _ s ih => exact ih.perform s
  | meanwhile _ _ ih => exact ih

/-! ### What is left -/

/-- The system refuses to save: it refuses to stage the bytes, or to write the file once the
directory is made and they are staged. -/
def RefusesToSave (d : Downloads) (markup filename : String) (e : ExportError) : Prop :=
  (∃ cause, e = .stage cause ∧ RefusesToStage d (Text.encode markup) cause) ∨
    ∃ cause tree, e = .write filename cause ∧ Keeps d.made tree ∧
      tree.write (joinPath d.directory filename) (Text.encode markup) = .error cause

/-- What saving comes to on the disk: the directory is made, and the file is written unless the
system refuses. -/
inductive Leaves (d : Downloads) (markup filename : String) :
    Except ExportError String × Downloads → Prop where
  | refused {drawn issued : Nat} {e : ExportError} (refuses : RefusesToSave d markup filename e) :
    Leaves d markup filename (.error e, {d with tree := d.made, drawn, issued})
  | written {drawn issued : Nat} {target : Location} (taken : d.made.isDirectoryAt target = false)
    (plain : ¬ Hides target)
    (read : Tree.fileAt (d.made.put target (.file (Text.encode markup)))
      (joinPath d.directory filename) = .ok (target, Text.encode markup)) :
    Leaves d markup filename (.ok (joinPath d.directory filename), {d with
      tree := d.made.put target (.file (Text.encode markup)), drawn, issued})

theorem lookup_concat {d : Downloads} {ref : Reference} {path : String}
    (fresh : ∀ m ∈ d.staged, m.1 ≠ ref) : (d.staged ++ [(ref, path)]).lookup ref = some path := by
  have new : d.staged.lookup ref = none :=
    List.lookup_eq_none_iff.mpr fun m hm => bne_iff_ne.mpr (fresh m hm).symm
  simp [List.lookup_append, new]

/-- Revocation of what was staged last takes its hidden file away. -/
theorem revoke_concat {d : Downloads} {path : String} {loc : Location} {bytes : Bytes}
    (ref : Reference) (fresh : ∀ m ∈ d.staged, m.1 ≠ ref)
    (held : d.tree.fileAt path = .ok (loc, bytes)) :
    revoke ref {d with staged := d.staged ++ [(ref, path)]} = {d with tree := d.tree.remove loc} := by
  have before : (d.staged ++ [(ref, path)]).filter (fun m => m.1 ≠ ref) = d.staged := by
    rw [List.filter_append, List.filter_eq_self.mpr fun m hm => decide_eq_true (fresh m hm)]
    simp
  simp only [revoke, lookup_concat fresh, before, discard_of_fileAt held]

/-- The rest of a save, once the bytes are hidden. -/
theorem leaves_of_delivered {d : Downloads} (numbered : Numbered d) {markup filename path : String}
    {drawn : Nat} {loc : Location} (free : d.made.entry? loc = none) (hides : Hides loc)
    (held : Tree.fileAt (d.made.put loc (.file (Text.encode markup))) path
      = .ok (loc, Text.encode markup))
    (plain : ¬ Hides (Path.ofString filename).names) {r : Except ExportError String × Downloads}
    (delivered : Delivered {d with
      tree := d.made.put loc (.file (Text.encode markup))
      drawn
      staged := d.staged ++ [(reference (d.issued + 1), path)]
      issued := d.issued + 1} (Text.encode markup) filename r) :
    Leaves d markup filename (r.1, r.2.revoke (reference (d.issued + 1))) := by
  -- Either way the hidden file is the last thing staged, and is revoked.
  cases delivered with
  | refused refused =>
    have revoked := revoke_concat (d := {d with
      tree := d.made.put loc (.file (Text.encode markup)), drawn, issued := d.issued + 1})
      _ numbered.fresh held
    have hidden := Files.Tree.isDirectoryAt_of_entry?_eq_none free
    rw [Files.Tree.remove_put free] at revoked
    dsimp only
    rw [revoked]
    exact .refused (.inr ⟨_, _, rfl, Files.Tree.keeps_put hidden _, refused⟩)
  | written written =>
    obtain ⟨target, located, rfl⟩ := Files.Tree.write_eq_ok written
    have beside := not_hides_of_locateForWriting plain located
    obtain ⟨taken, still, gone, read⟩ := Files.Tree.aside_of_located free held located
      (fun same => beside (same ▸ hides)) (Text.encode markup)
    have revoked := revoke_concat (d := {d with
      tree := (d.made.put loc (.file (Text.encode markup))).put target (.file (Text.encode markup))
      drawn
      issued := d.issued + 1})
      _ numbered.fresh still
    rw [gone] at revoked
    dsimp only
    rw [revoked]
    exact .written taken beside read

theorem leaves_save {d : Downloads} (numbered : Numbered d) (markup : String) {filename : String}
    (plain : ¬ Hides (Path.ofString filename).names) :
    Leaves d markup filename (Export.save markup filename d) := by
  have stages := stages_stage d (.svg markup)
  cases staged : d.stage (.svg markup) with
  | mk answer d' =>
    rw [staged] at stages
    cases stages with
    | refused refuses =>
      rw [save_of_failed staged]
      exact .refused (.inl ⟨_, rfl, refuses⟩)
    | hidden free hides held =>
      rw [save_of_staged staged]
      exact leaves_of_delivered numbered free hides held plain
        (delivered_deliver (lookup_concat numbered.fresh) hides held plain)

theorem hiddenFiles_made (d : Downloads) : hiddenFiles d.made = hiddenFiles d.tree :=
  hiddenFiles_grows (Files.Tree.grows_createDirectory d.tree d.directory)

/-- **Saving is all or nothing.** Take any sink, whatever it was asked and whatever others have done
to the tree, and any markup and file name but that of a hidden file. If the drawing is said to be
saved, the path is that of the file in the directory, which holds the markup in UTF-8, whatever it
held before. If it is not, the system refused. Everywhere else all is as it was, except that the
directory may have been made, with those it lies in, where nothing was. What was staged before stays
staged, in the same hidden files. -/
theorem all_or_nothing {d : Downloads} (used : Used d) (markup filename : String)
    (plain : ¬ Hides (Path.ofString filename).names) :
    let after := (Export.save markup filename d).2
    after.staged = d.staged ∧ hiddenFiles after.tree = hiddenFiles d.tree ∧
      match (Export.save markup filename d).1 with
      | .ok path => path = joinPath d.directory filename ∧ ∃ target, ¬ Hides target ∧
          after.tree.fileAt path = .ok (target, Text.encode markup) ∧
          d.tree.Writes (d.tree.Through d.directory) target (Text.encode markup) after.tree
      | .error e => RefusesToSave d markup filename e ∧
          d.tree.Adds (d.tree.Through d.directory) after.tree := by
  have adds : d.tree.Adds (d.tree.Through d.directory) d.made :=
    Files.Tree.adds_createDirectory d.tree d.directory
  have leaves := leaves_save used.numbered markup plain
  generalize Export.save markup filename d = r at leaves ⊢
  cases leaves with
  | refused refuses => exact ⟨rfl, hiddenFiles_made d, refuses, adds⟩
  | @written _ _ target taken beside read =>
    have hidden : hiddenFiles (d.made.put target (.file (Text.encode markup))) = hiddenFiles d.tree :=
      (hiddenFiles_put_of_not_hides beside _).trans (hiddenFiles_made d)
    exact ⟨rfl, hidden, rfl, target, beside, read, adds.writes taken _⟩

section Between

/-- One drawing is staged. -/
def begun : Downloads := (perform {directory := "out", tree := desk} (.stage (.svg "a"))).2

/-- Others have put a file there since. -/
def between : Downloads :=
  {begun with tree := begun.tree.put ["desk", "out", "drawing.svg"] (.file (Text.encode "old"))}

theorem used_between : Used between :=
  have used : Used begun := .asked (.new "out" desk _) _
  .meanwhile used _

/-- Another drawing is saved over that file. -/
theorem all_or_nothing_between :
    Used between ∧ ¬ Hides (Path.ofString "drawing.svg").names ∧
      between.tree.readBytes "out/drawing.svg" = .ok (Text.encode "old") ∧
      ∃ target, between.tree.Writes (between.tree.Through "out") target (Text.encode "b")
        (Export.save "b" "drawing.svg" between).2.tree := by
  have plain : ¬ Hides (Path.ofString "drawing.svg").names := by decide
  have saved : (Export.save "b" "drawing.svg" between).1 = .ok "out/drawing.svg" := by
    decide +kernel
  have all := all_or_nothing used_between "b" "drawing.svg" plain
  simp only [saved] at all
  obtain ⟨-, -, -, target, -, -, writes⟩ := all
  exact ⟨used_between, plain, by decide +kernel, target, writes⟩

end Between

end ProblemVisualizer.Export.Downloads
