import ProblemVisualizer.Proofs.Export.Staging

/-! A map from references to bytes.

`safekeeping` says what the hidden files come to: whatever the sink is asked, it acts
as a map from live references to bytes, and there are as many hidden files on the
disk as the map has entries. It takes that nothing is asked for under the name of a
hidden file. -/
namespace ProblemVisualizer.Export.Downloads

open Files (Draw Path Tree)
open Text (Bytes)

/-! ### Whatever is asked -/

/-- What the sink can be asked. -/
inductive Step where
  | stage (blob : Blob)
  | deliver (ref : Reference) (filename : String)
  | revoke (ref : Reference)
  | save (markup filename : String)

inductive Answer where
  | staged (answer : Except ExportError Reference)
  | delivered (answer : Except ExportError String)
  | revoked

/-- The step asks for a file under the name of a hidden one. -/
def Step.NamesHidden : Step → Prop
  | stage _ | revoke _ => False
  | deliver _ filename | save _ filename => Hides (Path.ofString filename).names

def perform (d : Downloads) : Step → Answer × Downloads
  | .stage blob => let (answer, d) := d.stage blob; (.staged answer, d)
  | .deliver ref filename => let (answer, d) := d.deliver ref filename; (.delivered answer, d)
  | .revoke ref => (.revoked, d.revoke ref)
  | .save markup filename => let (answer, d) := Export.save markup filename d; (.delivered answer, d)

/-- Carries steps out. Gives each with its answer, and what they leave. -/
def run (d : Downloads) : List Step → List (Step × Answer) × Downloads
  | [] => ([], d)
  | s :: rest =>
    let (answer, d) := d.perform s
    let (history, d) := d.run rest
    ((s, answer) :: history, d)

/-- Live references and what is staged under them. -/
abbrev Ledger := List (Reference × Bytes)

/-- A reference is live from the answer that creates it to its revocation. -/
def Ledger.record (l : Ledger) : Step × Answer → Ledger
  | (.stage blob, .staged (.ok ref)) => l ++ [(ref, blob.bytes)]
  | (.revoke ref, _) => l.filter fun m => m.1 ≠ ref
  | _ => l

/-- What is live after a history. -/
def Ledger.ofHistory (history : List (Step × Answer)) : Ledger := history.foldl Ledger.record []

/-- The reference that an answer creates. -/
def created? : Step × Answer → Option Reference
  | (.stage _, .staged (.ok ref)) => some ref
  | _ => none

/-- The sink acts as a map from live references to bytes. -/
structure ActsAsMap (d : Downloads) (ledger : Ledger) : Prop where
  map : (ledger.map Prod.fst).Nodup
  staged : d.staged.map Prod.fst = ledger.map Prod.fst
  files : (hiddenFiles d.tree).length = ledger.length
  delivers : ∀ ref bytes filename, (ref, bytes) ∈ ledger → ¬ Hides (Path.ofString filename).names →
    Delivered d bytes filename (d.deliver ref filename)
  unknown : ∀ ref filename, ref ∉ ledger.map Prod.fst →
    d.deliver ref filename = (.error (.unknownReference ref), d)
  unstaged : ∀ blob e, (d.stage blob).1 = .error e → Unstaged d blob e (d.stage blob).2
  gone : ∀ ref, ref ∉ ledger.map Prod.fst → d.revoke ref = d
  once : ∀ ref, (d.revoke ref).revoke ref = d.revoke ref
  saves : ∀ markup filename, ¬ Hides (Path.ofString filename).names →
    Saved d markup filename (Export.save markup filename d)

namespace Stores

variable {d : Downloads} {kept : List Kept}

/-- The map that the sink acts as. -/
def ledger (kept : List Kept) : Ledger := kept.map fun k => (reference k.number, k.bytes)

theorem gone_of_not_mem {ref : Reference} (gone : ref ∉ (ledger kept).map Prod.fst) :
    ∀ k ∈ kept, reference k.number ≠ ref := by
  rintro k hk rfl
  exact gone (List.mem_map_of_mem (List.mem_map_of_mem hk))

theorem deliver_of_gone (h : Stores d kept) {ref : Reference}
    (gone : ∀ k ∈ kept, reference k.number ≠ ref) (filename : String) :
    d.deliver ref filename = (.error (.unknownReference ref), d) := by
  rw [Downloads.deliver, h.lookup_eq_none gone]

theorem actsAsMap (h : Stores d kept) : ActsAsMap d (ledger kept) where
  map := by
    have references : ((kept.map Kept.number).map reference).Nodup :=
      h.distinct.map fun _ _ => reference_inj
    simpa [ledger, Function.comp_def] using references
  staged := by simp [h.staged, ledger]
  files := by simp [h.hidden, ledger]
  delivers ref bytes filename live plain := by
    obtain ⟨k, hk, eq⟩ := List.mem_map.mp live
    obtain ⟨rfl, rfl⟩ := Prod.mk.inj eq
    exact h.deliver hk plain
  unknown ref filename gone := h.deliver_of_gone (gone_of_not_mem gone) filename
  unstaged blob e failed := by
    have staged := h.stage blob
    generalize d.stage blob = r at staged failed ⊢
    cases staged with
    | failed unstaged => exact Except.error.inj failed ▸ unstaged
    | added => cases failed
  gone ref gone := h.revoke_of_gone (gone_of_not_mem gone)
  once ref := by
    refine (h.revoke ref).revoke_of_gone fun k hk => ?_
    exact of_decide_eq_true (List.mem_filter.mp hk).2
  saves markup filename plain := (h.save markup plain).1

end Stores

/-- What a step does to what is kept, and to the numbers: they go on, and a reference that is
created gets the next one. -/
structure Performs (d : Downloads) (kept : List Kept) (s : Step) (r : Answer × Downloads) : Prop where
  stores : ∃ kept', Stores r.2 kept' ∧ Stores.ledger kept' = (Stores.ledger kept).record (s, r.1)
  directory : r.2.directory = d.directory
  issued : d.issued ≤ r.2.issued
  created : ∀ ref, created? (s, r.1) = some ref → ref = reference r.2.issued ∧ d.issued < r.2.issued

theorem Stores.performs {d : Downloads} {kept : List Kept} (h : Stores d kept) {s : Step}
    (plain : ¬ s.NamesHidden) : Performs d kept s (d.perform s) := by
  cases s with
  | stage blob =>
    have staged := h.stage blob
    simp only [perform]
    generalize d.stage blob = r at staged ⊢
    cases staged with
    | failed unstaged directory stores =>
      exact ⟨⟨kept, stores, rfl⟩, directory, Nat.le_of_eq unstaged.issued.symm, nofun⟩
    | @added d' k number bytes directory issued _ stores =>
      have next : d.issued < d'.issued := by omega
      refine ⟨⟨kept ++ [k], stores, ?_⟩, directory, Nat.le_of_lt next, ?_⟩
      · rw [Stores.ledger, List.map_append]
        show _ ++ [(reference k.number, k.bytes)] = _
        rw [bytes]
        rfl
      · rintro ref ⟨⟩
        exact ⟨by rw [issued], next⟩
  | deliver ref filename =>
    obtain ⟨tree, eq⟩ := exists_deliver_eq d ref filename
    have stores : Stores (d.deliver ref filename).2 kept := by
      by_cases live : ∃ k ∈ kept, reference k.number = ref
      · obtain ⟨k, hk, rfl⟩ := live
        exact h.delivered plain (h.deliver hk plain)
      · rw [h.deliver_of_gone fun k hk same => live ⟨k, hk, same⟩]
        exact h
    simp only [perform]
    rw [eq] at stores ⊢
    exact ⟨⟨kept, stores, rfl⟩, rfl, Nat.le_refl _, nofun⟩
  | revoke ref =>
    obtain ⟨tree, staged, eq⟩ := exists_revoke_eq d ref
    have stores := h.revoke ref
    simp only [perform]
    rw [eq] at stores ⊢
    refine ⟨⟨_, stores, ?_⟩, rfl, Nat.le_refl _, nofun⟩
    rw [Stores.ledger, Stores.ledger, Ledger.record, List.filter_map]
    rfl
  | save markup filename =>
    obtain ⟨-, stores, directory, issued⟩ := h.save markup plain
    exact ⟨⟨kept, stores, rfl⟩, directory, issued, nofun⟩

/-- What steps do, one after the other. -/
theorem Stores.run {d : Downloads} {kept : List Kept} (h : Stores d kept) {steps : List Step}
    (plain : ∀ s ∈ steps, ¬ s.NamesHidden) :
    ∃ kept', Stores (d.run steps).2 kept' ∧
      Stores.ledger kept' = (d.run steps).1.foldl Ledger.record (Stores.ledger kept) ∧
      (d.run steps).2.directory = d.directory ∧
      ((d.run steps).1.filterMap created?).Nodup ∧
      ∀ ref ∈ (d.run steps).1.filterMap created?, ∃ n, d.issued < n ∧ ref = reference n := by
  induction steps generalizing d kept with
  | nil => exact ⟨kept, h, rfl, rfl, List.nodup_nil, fun _ hr => absurd hr List.not_mem_nil⟩
  | cons s rest ih =>
    obtain ⟨⟨kept', stores, first⟩, directory, issued, created⟩ :=
      h.performs (plain s List.mem_cons_self)
    obtain ⟨kept'', stores', others, directory', nodup, later⟩ :=
      ih stores fun s hs => plain s (List.mem_cons_of_mem _ hs)
    have split : (d.run (s :: rest)).1.filterMap created?
        = (created? (s, (d.perform s).1)).toList
          ++ ((d.perform s).2.run rest).1.filterMap created? := by
      show List.filterMap created? ((s, (d.perform s).1) :: ((d.perform s).2.run rest).1) = _
      rw [List.filterMap_cons]
      cases created? (s, (d.perform s).1) <;> rfl
    refine ⟨kept'', stores', ?_, directory'.trans directory, ?_, ?_⟩
    · rw [others, first]
      rfl
    · rw [split, List.nodup_append]
      refine ⟨Option.toList_nodup _, nodup, fun ref hr other ho same => ?_⟩
      obtain ⟨rfl, -⟩ := created ref (Option.mem_toList.mp hr)
      obtain ⟨n, above, named⟩ := later other ho
      exact Nat.ne_of_lt above (reference_inj (same.trans named))
    · intro ref hr
      rw [split] at hr
      rcases List.mem_append.mp hr with now | after
      · obtain ⟨named, above⟩ := created ref (Option.mem_toList.mp now)
        exact ⟨_, above, named⟩
      · obtain ⟨n, above, named⟩ := later ref after
        exact ⟨n, Nat.lt_of_le_of_lt issued above, named⟩

theorem stores_start {directory : String} {tree : Tree} (draws : Nat → Draw)
    (clean : hiddenFiles tree = []) : Stores {directory, tree, draws} [] :=
  ⟨rfl, nofun, clean, List.nodup_nil, List.nodup_nil, nofun⟩

/-- **The sink is a map from references to bytes**, whatever it is asked and in whatever order, as
long as nothing is asked for under the name of a hidden file. It may be any directory of any tree
without hidden files, and the system may bring anything to the hidden files, letters that are taken
and faults included. The references created all differ, the live ones are those created and not yet
revoked, and there is one hidden file for each. A live reference delivers what was staged under it;
one that is not live delivers nothing and changes nothing, and neither does its revocation. A blob
that cannot be staged leaves no reference, no number and no hidden file behind, and a drawing that
is saved leaves none either way. -/
theorem safekeeping (directory : String) (tree : Tree) (draws : Nat → Draw) (steps : List Step)
    (clean : hiddenFiles tree = []) (plain : ∀ s ∈ steps, ¬ s.NamesHidden) :
    let start : Downloads := {directory, tree, draws}
    let history := (start.run steps).1
    let d := (start.run steps).2
    (history.filterMap created?).Nodup ∧ d.directory = directory ∧
      ActsAsMap d (Ledger.ofHistory history) := by
  intro start history d
  obtain ⟨kept, stores, ledger, same, nodup, -⟩ := (stores_start draws clean).run plain
  refine ⟨nodup, same, ?_⟩
  rw [Ledger.ofHistory, ← show Stores.ledger kept = history.foldl Ledger.record [] from ledger]
  exact stores.actsAsMap

section Desk

/-- A working directory with nothing in it. -/
def desk : Tree := {entries := [(["desk"], .directory)], workingDirectory := ["desk"]}

/-- Two drawings are staged, the first one is delivered and revoked, and a third one is saved over
it. -/
def threeDrawings : List Step :=
  [.stage (.svg "a"), .stage (.svg "b"), .deliver (reference 1) "drawing.svg",
   .revoke (reference 1), .save "c" "drawing.svg"]

theorem plain_threeDrawings : ∀ s ∈ threeDrawings, ¬ s.NamesHidden := by
  have plain : ¬ Hides (Path.ofString "drawing.svg").names := by decide
  simp [threeDrawings, Step.NamesHidden, plain]

/-- The second drawing is still there to be delivered. -/
theorem safekeeping_threeDrawings :
    let ran := Downloads.run {directory := "out", tree := desk} threeDrawings
    hiddenFiles desk = [] ∧ (∀ s ∈ threeDrawings, ¬ s.NamesHidden) ∧
      ran.2.tree.readBytes "out/drawing.svg" = .ok (Text.encode "c") ∧
      ActsAsMap ran.2 [(reference 2, Text.encode "b")] := by
  intro ran
  have clean : hiddenFiles desk = [] := by decide
  have live : Ledger.ofHistory ran.1 = [(reference 2, Text.encode "b")] := by decide +kernel
  have acts := (safekeeping "out" desk (fun n => ⟨.ofNat n, none⟩) threeDrawings clean
    plain_threeDrawings).2.2
  exact ⟨clean, plain_threeDrawings, by decide +kernel, live ▸ acts⟩

end Desk

end ProblemVisualizer.Export.Downloads
