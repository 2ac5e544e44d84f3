import Mathlib.Data.List.Nodup
import ProblemVisualizer.Proofs.Export.HiddenFiles

/-! What is staged is kept.

Staged bytes lie in a file of the very directory that is saved into, beside files
that come and go. The invariant is `Stores`: it says what is kept, and where its
hidden files are. Each operation has a lemma of what it does to what is kept. Places
matter and not paths: as long as no other file is put or removed in its place, a
hidden file is found by its path. -/
namespace ProblemVisualizer.Export.Downloads

open Files (Failure Location Path Tree joinPath)
open Files.Tree (Grows Keeps)
open Text (Bytes)

/-! ### What is kept -/

/-- Something staged: the number of its reference, the path and the place of its hidden file, and
the bytes. -/
structure Kept where
  number : Nat
  path : String
  location : Location
  bytes : Bytes

/-- The sink keeps just these, each in a hidden file of its own. -/
structure Stores (d : Downloads) (kept : List Kept) : Prop where
  staged : d.staged = kept.map fun k => (reference k.number, k.path)
  held : ∀ k ∈ kept, d.tree.fileAt k.path = .ok (k.location, k.bytes)
  hidden : hiddenFiles d.tree = kept.map Kept.location
  apart : (kept.map Kept.location).Nodup
  distinct : (kept.map Kept.number).Nodup
  issued : ∀ k ∈ kept, k.number ≤ d.issued

theorem reference_inj {m n : Nat} (h : reference m = reference n) : m = n := by
  have same : "blob:math2visual/" ++ toString m = "blob:math2visual/" ++ toString n := h
  have texts := congrArg String.toList same
  rw [String.toList_append, String.toList_append] at texts
  have digits := List.append_cancel_left texts
  rw [Nat.toString_eq_ofList_toDigits, Nat.toString_eq_ofList_toDigits, String.toList_ofList,
    String.toList_ofList] at digits
  rw [← Nat.ofDigitChars_ten_toDigits (n := m), digits, Nat.ofDigitChars_ten_toDigits]

namespace Stores

variable {d d' : Downloads} {kept : List Kept}

theorem hides (h : Stores d kept) {k : Kept} (hk : k ∈ kept) : Hides k.location := by
  refine hides_of_mem_hiddenFiles (t := d.tree) ?_
  rw [h.hidden]
  exact List.mem_map_of_mem hk

theorem entry (h : Stores d kept) {k : Kept} (hk : k ∈ kept) :
    d.tree.entry? k.location = some (.file k.bytes) := by
  obtain ⟨-, -, -, there⟩ := Files.Tree.fileAt_eq_ok_iff.mp (h.held k hk)
  exact there

/-- A tree that has all of it serves as well. -/
theorem congr (h : Stores d kept) (staged : d'.staged = d.staged) (issued : d'.issued = d.issued)
    (keeps : Keeps d.tree d'.tree) (hidden : hiddenFiles d'.tree = hiddenFiles d.tree)
    (still : ∀ k ∈ kept, d'.tree.entry? k.location = some (.file k.bytes)) : Stores d' kept where
  staged := staged.trans h.staged
  held k hk := keeps.fileAt (h.held k hk) (still k hk)
  hidden := hidden.trans h.hidden
  apart := h.apart
  distinct := h.distinct
  issued k hk := issued ▸ h.issued k hk

theorem grows (h : Stores d kept) {tree : Tree} (g : Grows d.tree tree) (drawn : Nat) :
    Stores {d with tree, drawn} kept :=
  h.congr rfl rfl g.keeps (hiddenFiles_grows g) fun _ hk => g.entry? (h.entry hk)

/-- A reference that is kept is looked up. -/
theorem lookup_eq (h : Stores d kept) {k : Kept} (hk : k ∈ kept) :
    d.staged.lookup (reference k.number) = some k.path := by
  obtain ⟨before, after, rfl⟩ := List.append_of_mem hk
  rw [h.staged, List.map_append, List.map_cons]
  refine List.lookup_eq_some_iff.mpr ⟨_, _, rfl, fun m hm => ?_⟩
  obtain ⟨other, ho, rfl⟩ := List.mem_map.mp hm
  refine bne_iff_ne.mpr fun same => ?_
  have distinct := h.distinct
  rw [List.map_append, List.map_cons, List.nodup_append] at distinct
  exact distinct.2.2 _ (List.mem_map_of_mem ho) _ List.mem_cons_self (reference_inj same).symm

theorem lookup_eq_none (h : Stores d kept) {ref : Reference}
    (gone : ∀ k ∈ kept, reference k.number ≠ ref) : d.staged.lookup ref = none := by
  rw [h.staged]
  refine List.lookup_eq_none_iff.mpr fun m hm => ?_
  obtain ⟨k, hk, rfl⟩ := List.mem_map.mp hm
  exact bne_iff_ne.mpr (gone k hk).symm

end Stores

/-! ### Staging -/

theorem discard_of_fileAt {t : Tree} {path : String} {loc : Location} {bytes : Bytes}
    (held : t.fileAt path = .ok (loc, bytes)) : discard t path = t.remove loc := by
  simp [discard, Files.Tree.removeFile, held, Except.map]

/-- The system refuses to hide bytes: the file cannot be made, or the device does not fill it. -/
def RefusesToHide (d : Downloads) (bytes : Bytes) (e : Failure) : Prop :=
  d.tree.createFile (d.hiddenPath (d.draws d.drawn).letters) bytes = .error e ∨
    (d.draws d.drawn).fault = some e

/-- The system refuses to stage bytes: there is no directory for them, or they cannot be hidden. -/
def RefusesToStage (d : Downloads) (bytes : Bytes) (e : Failure) : Prop :=
  (d.tree.createDirectory d.directory).1 = some e ∨
    RefusesToHide {d with tree := (d.tree.createDirectory d.directory).2} bytes e

/-- What can come of hiding bytes: they lie in a new hidden file, or the tree is as it was. -/
inductive Hiding (d : Downloads) (bytes : Bytes) : Except Failure String × Downloads → Prop where
  | failed {e : Failure} (refuses : RefusesToHide d bytes e) :
    Hiding d bytes (.error e, {d with drawn := d.drawn + 1})
  | hidden {path : String} {loc : Location} (free : d.tree.entry? loc = none) (hides : Hides loc)
    (held : Tree.fileAt (d.tree.put loc (.file bytes)) path = .ok (loc, bytes)) :
    Hiding d bytes
      (.ok path, {d with drawn := d.drawn + 1, tree := d.tree.put loc (.file bytes)})

theorem hiding_hide (d : Downloads) (bytes : Bytes) : Hiding d bytes (d.hide bytes) := by
  unfold hide
  dsimp only
  cases made : d.tree.createFile (d.hiddenPath (d.draws d.drawn).letters) bytes with
  | error e => exact .failed (.inl made)
  | ok tree =>
    obtain ⟨p, loc, parsed, leads, free, rfl, held⟩ := Files.Tree.createFile_eq_ok made
    dsimp only
    cases fault : (d.draws d.drawn).fault with
    | none => exact .hidden free (hides_of_leadsTo parsed leads) held
    | some e =>
      -- The file that could not be filled is gone again.
      rw [discard_of_fileAt held, Files.Tree.remove_put free]
      exact .failed (.inr fault)

/-- The tree once the directory is made, as far as it can be. -/
def made (d : Downloads) : Tree := (d.tree.createDirectory d.directory).2

/-- What staging a blob comes to on the disk: the directory is made, and the blob is hidden and gets
the next number unless the system refuses. -/
inductive Stages (d : Downloads) (blob : Blob) : Except ExportError Reference × Downloads → Prop where
  | refused {drawn : Nat} {e : Failure} (refuses : RefusesToStage d blob.bytes e) :
    Stages d blob (.error (.stage e), {d with tree := d.made, drawn})
  | hidden {drawn : Nat} {path : String} {loc : Location} (free : d.made.entry? loc = none)
    (hides : Hides loc)
    (held : Tree.fileAt (d.made.put loc (.file blob.bytes)) path = .ok (loc, blob.bytes)) :
    Stages d blob (.ok (reference (d.issued + 1)), {d with
      tree := d.made.put loc (.file blob.bytes)
      drawn
      staged := d.staged ++ [(reference (d.issued + 1), path)]
      issued := d.issued + 1})

theorem stages_stage (d : Downloads) (blob : Blob) : Stages d blob (d.stage blob) := by
  unfold stage
  cases making : d.tree.createDirectory d.directory with
  | mk failure tree =>
    obtain rfl : d.made = tree := congrArg Prod.snd making
    cases failure with
    | some e => exact .refused (.inl (congrArg Prod.fst making))
    | none =>
      have hid := hiding_hide {d with tree := d.made} blob.bytes
      dsimp only
      generalize hide blob.bytes {d with tree := d.made} = r at hid ⊢
      cases hid with
      | failed refuses => exact .refused (.inr refuses)
      | hidden free hides held => exact .hidden free hides held

/-- What can come of staging a blob: it is hidden and gets the next number, or there are some
directories more at most. -/
inductive Staging (d : Downloads) (blob : Blob) : Except ExportError Reference × Downloads → Prop where
  | failed {tree : Tree} {drawn : Nat} {e : Failure} (refuses : RefusesToStage d blob.bytes e)
    (grows : Grows d.tree tree) : Staging d blob (.error (.stage e), {d with tree, drawn})
  | staged {tree : Tree} {drawn : Nat} {path : String} {loc : Location} (grows : Grows d.tree tree)
    (free : tree.entry? loc = none) (hides : Hides loc)
    (held : Tree.fileAt (tree.put loc (.file blob.bytes)) path = .ok (loc, blob.bytes)) :
    Staging d blob (.ok (reference (d.issued + 1)), {d with
      tree := tree.put loc (.file blob.bytes)
      drawn
      staged := d.staged ++ [(reference (d.issued + 1), path)]
      issued := d.issued + 1})

theorem staging (d : Downloads) (blob : Blob) : Staging d blob (d.stage blob) := by
  have grows : Grows d.tree d.made := Files.Tree.grows_createDirectory d.tree d.directory
  have stages := stages_stage d blob
  generalize d.stage blob = r at stages ⊢
  cases stages with
  | refused refuses => exact .failed refuses grows
  | hidden free hides held => exact .staged grows free hides held

theorem nodup_map_concat {α : Type} {f : Kept → α} {kept : List Kept} {new : Kept}
    (h : (kept.map f).Nodup) (fresh : ∀ k ∈ kept, f k ≠ f new) :
    ((kept ++ [new]).map f).Nodup := by
  rw [List.map_append, List.nodup_append]
  refine ⟨h, List.nodup_singleton _, fun a ha b hb => ?_⟩
  obtain ⟨k, hk, rfl⟩ := List.mem_map.mp ha
  obtain rfl := List.mem_singleton.mp hb
  exact fresh k hk

theorem Stores.put {d : Downloads} {kept : List Kept} (h : Stores d kept) {path : String}
    {loc : Location} {bytes : Bytes} (free : d.tree.entry? loc = none) (hides : Hides loc)
    (held : Tree.fileAt (d.tree.put loc (.file bytes)) path = .ok (loc, bytes)) :
    Stores {d with
      tree := d.tree.put loc (.file bytes)
      staged := d.staged ++ [(reference (d.issued + 1), path)]
      issued := d.issued + 1} (kept ++ [⟨d.issued + 1, path, loc, bytes⟩]) := by
  have taken := Files.Tree.isDirectoryAt_of_entry?_eq_none free
  have elsewhere : ∀ k ∈ kept, k.location ≠ loc := by
    intro k hk same
    have there := h.entry hk
    rw [same, free] at there
    cases there
  constructor
  · rw [h.staged, List.map_append]
    rfl
  · intro k hk
    rcases List.mem_append.mp hk with old | new
    · refine (Files.Tree.keeps_put taken _).fileAt (h.held k old) ?_
      rw [Files.Tree.entry?_put_of_ne _ (Files.Tree.ne_nil_of_entry?_eq_none free) _
        (elsewhere k old), h.entry old]
    · obtain rfl := List.mem_singleton.mp new
      exact held
  · rw [hiddenFiles_put_of_free free, if_pos ⟨nofun, hides⟩, h.hidden, List.map_append]
    rfl
  · exact nodup_map_concat h.apart elsewhere
  · exact nodup_map_concat h.distinct fun k hk => Nat.ne_of_lt (Nat.lt_succ_of_le (h.issued k hk))
  · intro k hk
    rcases List.mem_append.mp hk with old | new
    · exact Nat.le_succ_of_le (h.issued k old)
    · obtain rfl := List.mem_singleton.mp new
      exact Nat.le_refl _

/-- A blob is not staged: the system refuses, and there are some directories more at most. -/
structure Unstaged (d : Downloads) (blob : Blob) (e : ExportError) (d' : Downloads) : Prop where
  cause : ∃ cause, e = .stage cause ∧ RefusesToStage d blob.bytes cause
  staged : d'.staged = d.staged
  issued : d'.issued = d.issued
  hidden : hiddenFiles d'.tree = hiddenFiles d.tree
  grows : Grows d.tree d'.tree

/-- What staging a blob is for what is kept: the blob is kept besides, under the next number, or
nothing changes. -/
inductive Staged (d : Downloads) (kept : List Kept) (blob : Blob) :
    Except ExportError Reference × Downloads → Prop where
  | failed {d' : Downloads} {e : ExportError} (unstaged : Unstaged d blob e d')
    (directory : d'.directory = d.directory) (stores : Stores d' kept) :
    Staged d kept blob (.error e, d')
  | added {d' : Downloads} {k : Kept} (number : k.number = d.issued + 1) (bytes : k.bytes = blob.bytes)
    (directory : d'.directory = d.directory) (issued : d'.issued = k.number)
    (keeps : Keeps d.tree d'.tree) (stores : Stores d' (kept ++ [k])) :
    Staged d kept blob (.ok (reference k.number), d')

theorem Stores.stage {d : Downloads} {kept : List Kept} (h : Stores d kept) (blob : Blob) :
    Staged d kept blob (d.stage blob) := by
  have staging := staging d blob
  generalize d.stage blob = r at staging ⊢
  cases staging with
  | failed refuses grows =>
    exact .failed ⟨⟨_, rfl, refuses⟩, rfl, rfl, hiddenFiles_grows grows, grows⟩ rfl (h.grows grows _)
  | @staged tree drawn path loc grows free hides held =>
    have taken := Files.Tree.isDirectoryAt_of_entry?_eq_none free
    exact .added (k := ⟨d.issued + 1, path, loc, blob.bytes⟩) rfl rfl rfl rfl
      (grows.keeps.trans (Files.Tree.keeps_put taken _)) ((h.grows grows drawn).put free hides held)

/-! ### Delivery -/

/-- Bytes are delivered: they are written to the file of that name in the directory, and can be
read there. Only the writing can fail, and then nothing changes. -/
inductive Delivered (d : Downloads) (bytes : Bytes) (filename : String) :
    Except ExportError String × Downloads → Prop where
  | refused {e : Failure} (refused : d.tree.write (joinPath d.directory filename) bytes = .error e) :
    Delivered d bytes filename (.error (.write filename e), d)
  | written {tree : Tree} (written : d.tree.write (joinPath d.directory filename) bytes = .ok tree)
    (read : tree.readBytes (joinPath d.directory filename) = .ok bytes) :
    Delivered d bytes filename (.ok (joinPath d.directory filename), {d with tree})

theorem Delivered.cause {d : Downloads} {bytes : Bytes} {filename : String}
    {r : Except ExportError String × Downloads} (del : Delivered d bytes filename r) {e : ExportError}
    (failed : r.1 = .error e) : ∃ cause, e = .write filename cause ∧
      d.tree.write (joinPath d.directory filename) bytes = .error cause := by
  cases del with
  | refused refused => exact ⟨_, (Except.error.inj failed).symm, refused⟩
  | written => cases failed

/-- What lies in a hidden file is delivered under its reference. -/
theorem delivered_deliver {d : Downloads} {ref : Reference} {path filename : String} {loc : Location}
    {bytes : Bytes} (live : d.staged.lookup ref = some path) (hides : Hides loc)
    (held : d.tree.fileAt path = .ok (loc, bytes)) (plain : ¬ Hides (Path.ofString filename).names) :
    Delivered d bytes filename (d.deliver ref filename) := by
  have copied : d.tree.copy path (joinPath d.directory filename)
      = d.tree.write (joinPath d.directory filename) bytes := by
    refine Files.Tree.copy_eq_write held fun found located same => ?_
    exact not_hides_of_locateForWriting plain located (same ▸ hides)
  unfold Downloads.deliver
  rw [live]
  simp only [copied]
  cases write : d.tree.write (joinPath d.directory filename) bytes with
  | error e => exact .refused write
  | ok tree =>
    obtain ⟨found, located, rfl⟩ := Files.Tree.write_eq_ok write
    exact .written write (Files.Tree.readBytes_of_fileAt (Files.Tree.fileAt_write located bytes))

namespace Stores

variable {d : Downloads} {kept : List Kept} {filename : String}

theorem deliver (h : Stores d kept) {k : Kept} (hk : k ∈ kept)
    (plain : ¬ Hides (Path.ofString filename).names) :
    Delivered d k.bytes filename (d.deliver (reference k.number) filename) :=
  delivered_deliver (h.lookup_eq hk) (h.hides hk) (h.held k hk) plain

theorem delivered (h : Stores d kept) (plain : ¬ Hides (Path.ofString filename).names)
    {bytes : Bytes} {r : Except ExportError String × Downloads} (del : Delivered d bytes filename r) :
    Stores r.2 kept := by
  cases del with
  | refused => exact h
  | written written =>
    obtain ⟨found, located, rfl⟩ := Files.Tree.write_eq_ok written
    obtain ⟨_, -, -, leads, taken⟩ := Files.Tree.leadsTo_of_locateForWriting located
    have beside := not_hides_of_locateForWriting plain located
    refine h.congr rfl rfl (Files.Tree.keeps_put taken _) (hiddenFiles_put_of_not_hides beside _)
      fun k hk => ?_
    have elsewhere : k.location ≠ found := fun same => beside (same ▸ h.hides hk)
    rw [Files.Tree.entry?_put_of_ne _ leads.ne_nil _ elsewhere, h.entry hk]

end Stores

/-! ### Revocation -/

namespace Stores

variable {d : Downloads} {kept : List Kept}

theorem revoke_of_gone (h : Stores d kept) {ref : Reference}
    (gone : ∀ k ∈ kept, reference k.number ≠ ref) : d.revoke ref = d := by
  rw [Downloads.revoke, h.lookup_eq_none gone]

theorem revoke_of_mem (h : Stores d kept) {k : Kept} (hk : k ∈ kept) :
    d.revoke (reference k.number) = {d with
      tree := d.tree.remove k.location
      staged := d.staged.filter fun m => m.1 ≠ reference k.number} := by
  rw [Downloads.revoke, h.lookup_eq hk]
  simp only [discard_of_fileAt (h.held k hk)]

/-- What is revoked is gone from the disk, and nothing else is. -/
theorem revoke (h : Stores d kept) (ref : Reference) :
    Stores (d.revoke ref) (kept.filter fun k => reference k.number ≠ ref) := by
  by_cases live : ∃ k ∈ kept, reference k.number = ref
  · obtain ⟨k, hk, rfl⟩ := live
    have same : ∀ other ∈ kept, reference other.number ≠ reference k.number ↔
        other.location ≠ k.location := by
      intro other ho
      refine not_congr ⟨fun number => ?_, fun location => ?_⟩
      · rw [List.inj_on_of_nodup_map h.distinct ho hk (reference_inj number)]
      · rw [List.inj_on_of_nodup_map h.apart ho hk location]
    have fewer : (kept.filter fun other => reference other.number ≠ reference k.number).Sublist kept :=
      List.filter_sublist
    have taken : d.tree.isDirectoryAt k.location = false := by
      simp [Files.Tree.isDirectoryAt, h.entry hk]
    rw [h.revoke_of_mem hk]
    constructor
    · rw [h.staged, List.filter_map]
      rfl
    · intro other ho
      obtain ⟨ho, revoked⟩ := List.mem_filter.mp ho
      have elsewhere := (same other ho).mp (of_decide_eq_true revoked)
      exact Files.Tree.fileAt_remove (h.held other ho) taken elsewhere
    · rw [hiddenFiles_remove, h.hidden, List.filter_map]
      exact congrArg _ (List.filter_congr fun other ho => decide_eq_decide.mpr (same other ho).symm)
    · exact h.apart.sublist (fewer.map _)
    · exact h.distinct.sublist (fewer.map _)
    · exact fun other ho => h.issued other (List.mem_filter.mp ho).1
  · have gone : ∀ k ∈ kept, reference k.number ≠ ref := fun k hk same => live ⟨k, hk, same⟩
    rw [h.revoke_of_gone gone, List.filter_eq_self.mpr fun k hk => decide_eq_true (gone k hk)]
    exact h

end Stores

/-! ### Saving -/

/-- A drawing is saved: nothing stays staged for it, and if it is said to be in a file, it is. Else
the system refused to stage it or to write the file. -/
structure Saved (d : Downloads) (markup filename : String)
    (r : Except ExportError String × Downloads) : Prop where
  staged : r.2.staged = d.staged
  hidden : hiddenFiles r.2.tree = hiddenFiles d.tree
  read : ∀ path, r.1 = .ok path → path = joinPath d.directory filename ∧
    r.2.tree.readBytes path = .ok (Text.encode markup)
  refused : ∀ e, r.1 = .error e →
    (∃ cause, e = .stage cause ∧ RefusesToStage d (Text.encode markup) cause) ∨
    ∃ cause tree, e = .write filename cause ∧ Keeps d.tree tree ∧
      tree.write (joinPath d.directory filename) (Text.encode markup) = .error cause

theorem exists_deliver_eq (d : Downloads) (ref : Reference) (filename : String) :
    ∃ tree, (d.deliver ref filename).2 = {d with tree} := by
  unfold deliver
  split
  · exact ⟨_, rfl⟩
  · dsimp only
    split <;> exact ⟨_, rfl⟩

theorem exists_revoke_eq (d : Downloads) (ref : Reference) :
    ∃ tree staged, d.revoke ref = {d with tree, staged} := by
  unfold revoke
  split <;> exact ⟨_, _, rfl⟩

theorem save_of_failed {d d' : Downloads} {markup : String} {e : ExportError}
    (failed : d.stage (.svg markup) = (.error e, d')) (filename : String) :
    Export.save markup filename d = (.error e, d') := by
  simp only [Export.save, Sink.stage, failed]

theorem save_of_staged {d d' : Downloads} {markup : String} {ref : Reference}
    (staged : d.stage (.svg markup) = (.ok ref, d')) (filename : String) :
    Export.save markup filename d
      = ((d'.deliver ref filename).1, (d'.deliver ref filename).2.revoke ref) := by
  simp only [Export.save, Sink.stage, Sink.deliver, Sink.revoke, staged]

namespace Stores

variable {d : Downloads} {kept : List Kept} {filename : String}

/-- When the last thing staged is revoked, all is as before. -/
theorem filter_concat (h : Stores d kept) {k : Kept} (new : d.issued < k.number) :
    (kept ++ [k]).filter (fun other => reference other.number ≠ reference k.number) = kept := by
  have old : ∀ other ∈ kept, reference other.number ≠ reference k.number := fun other ho same =>
    Nat.ne_of_lt (Nat.lt_of_le_of_lt (h.issued other ho) new) (reference_inj same)
  rw [List.filter_append, List.filter_eq_self.mpr fun other ho => decide_eq_true (old other ho)]
  simp

/-- What has been delivered can be read after the revocation, too. -/
theorem read_revoke (h : Stores d kept) {k : Kept} (hk : k ∈ kept)
    (plain : ¬ Hides (Path.ofString filename).names) {r : Except ExportError String × Downloads}
    (del : Delivered d k.bytes filename r) {path : String} (said : r.1 = .ok path) :
    path = joinPath d.directory filename ∧
      (r.2.revoke (reference k.number)).tree.readBytes path = .ok k.bytes := by
  have during := h.delivered plain del
  rw [during.revoke_of_mem hk]
  cases del with
  | refused => cases said
  | written written =>
    obtain rfl := Except.ok.inj said
    obtain ⟨found, located, rfl⟩ := Files.Tree.write_eq_ok written
    have beside := not_hides_of_locateForWriting plain located
    have taken : Files.Tree.isDirectoryAt (d.tree.put found (.file k.bytes)) k.location = false := by
      simp [Files.Tree.isDirectoryAt, during.entry hk]
    have apart : found ≠ k.location := fun same => beside (same ▸ h.hides hk)
    have written := Files.Tree.fileAt_write located k.bytes
    exact ⟨rfl, Files.Tree.readBytes_of_fileAt (Files.Tree.fileAt_remove written taken apart)⟩

theorem save (h : Stores d kept) (markup : String) (plain : ¬ Hides (Path.ofString filename).names) :
    Saved d markup filename (Export.save markup filename d) ∧
      Stores (Export.save markup filename d).2 kept ∧
      (Export.save markup filename d).2.directory = d.directory ∧
      d.issued ≤ (Export.save markup filename d).2.issued := by
  have staged := h.stage (.svg markup)
  generalize result : d.stage (.svg markup) = r at staged
  cases staged with
  | failed unstaged directory stores =>
    rw [save_of_failed result]
    refine ⟨⟨unstaged.staged, unstaged.hidden, nofun, ?_⟩, stores, directory,
      Nat.le_of_eq unstaged.issued.symm⟩
    rintro e ⟨⟩
    exact .inl unstaged.cause
  | @added d' k number bytes directory issued keeps stores =>
    rw [save_of_staged result]
    have new : k ∈ kept ++ [k] := List.mem_append_right kept (List.mem_singleton_self k)
    have del := stores.deliver new plain
    have after := (stores.delivered plain del).revoke (reference k.number)
    rw [h.filter_concat (number ▸ Nat.lt_succ_self _)] at after
    obtain ⟨tree, delivered⟩ := exists_deliver_eq d' (reference k.number) filename
    obtain ⟨tree', staged', revoked⟩ :=
      exists_revoke_eq (d'.deliver (reference k.number) filename).2 (reference k.number)
    refine ⟨⟨after.staged.trans h.staged.symm, after.hidden.trans h.hidden.symm,
      fun path said => ?_, fun e failed => ?_⟩, after, ?_, ?_⟩
    · have read := stores.read_revoke new plain del said
      rwa [directory, bytes] at read
    · obtain ⟨cause, rfl, refused⟩ := del.cause failed
      rw [directory, bytes] at refused
      exact .inr ⟨cause, d'.tree, rfl, keeps, refused⟩
    · rw [revoked, delivered]
      exact directory
    · rw [revoked, delivered]
      show d.issued ≤ d'.issued
      omega

end Stores

end ProblemVisualizer.Export.Downloads
