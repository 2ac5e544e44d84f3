import ProblemVisualizer.Export.Recorder
import ProblemVisualizer.Proofs.App.Outstanding

/-! When a response arrives.

The person may go on working on the first form while a request is pending, and
the response may come between any two keys. `arrival_time` says that it does not
matter between which: as long as no key leaves the form, submits, saves or copies,
the client ends up the same in every respect.

The reason is that the two have nothing in common. A response reads and writes the
`Link` of a client to the service and passes over everything else (`Local`); the keys
read and write everything else and pass over the link (`passes_step`). -/
namespace ProblemVisualizer.App

open Export (Sink)
open Form (DescriptionForm)
open Session (Completion Outcome RequestId RequestState Slot Workers)
open Text (EditBuffer)

variable {σ : Type}

/-! ### The link to the service -/

/-- The request in hand, the calls for it and the form that shows what they bring. -/
structure Link where
  slot : Slot
  description : DescriptionForm
  workers : Workers

def link (a : App σ) : Link := ⟨a.slot, a.description, a.workers⟩

/-- The client with another link. -/
def withLink (a : App σ) (x : Link) : App σ :=
  {a with slot := x.slot, description := x.description, workers := x.workers}

@[simp] theorem withLink_link (a : App σ) : a.withLink a.link = a := rfl

/-- A change that happens within the link: it does the same to the link of every client that has it,
and nothing else to any of them. -/
def Local (f : App σ → App σ) : Prop :=
  ∀ a b : App σ, f (b.withLink a.link) = b.withLink (f a).link

theorem Local.comp {f g : App σ → App σ} (hf : Local f) (hg : Local g) :
    Local fun a => f (g a) := by
  intro a b
  show f (g (b.withLink a.link)) = b.withLink (f (g a)).link
  rw [hg a b, hf (g a) b]

theorem Local.eq_withLink {f : App σ → App σ} (h : Local f) (a : App σ) :
    f a = a.withLink (f a).link := h a a

theorem local_take (c : Completion) : Local fun a : App σ => (a.take c).2 := fun _ _ => rfl

theorem local_takeAll (cs : List Completion) : Local fun a : App σ => (a.takeAll cs).2 := by
  induction cs with
  | nil => exact fun _ _ => rfl
  | cons c rest ih => exact ih.comp (local_take c)

theorem local_finish [Sink σ] (id : RequestId) (outcome : Outcome) :
    Local fun a : App σ => a.step (.finish id outcome) := fun _ _ => rfl

theorem local_call [Sink σ] (id : RequestId) : Local fun a : App σ => a.step (.call id) :=
  fun _ _ => rfl

theorem local_collectAll [Sink σ] : Local fun a : App σ => a.step .collectAll := by
  intro a b
  exact local_takeAll a.workers.arrived {a with workers := {a.workers with arrived := []}} b

theorem local_collectNext [Sink σ] : Local fun a : App σ => a.step .collectNext := by
  intro a b
  show (b.withLink a.link).collectNext.2 = b.withLink a.collectNext.2.link
  have same : (b.withLink a.link).workers = a.workers := rfl
  unfold collectNext
  rw [same]
  cases a.workers.next? with
  | none => rfl
  | some next => exact local_take next.1 {a with workers := next.2} b

/-! ### Keys that ask for no response -/

/-- A key that has nothing to do with the service: where keys are for the forms, it does not move
the focus, and it submits, saves and copies nothing. Where they are for the help, any key will
do. -/
def QuietKey (a : App σ) : Event → Prop
  | .key key control _ => a.mode = .normal →
      if control then key ∉ [.char 'r', .char 'f', .char 't', .char 'y']
      else key ∉ [.tab, .backTab, .up, .down, .enter]
  | _ => False

/-- One of the two fields of the first form has the focus. -/
def AtProblem (a : App σ) : Prop := a.focus = .problem ∨ a.focus = .formula

theorem move_withLink {a : App σ} (h : a.AtProblem) (f : EditBuffer → EditBuffer)
    (x : Link) : (a.withLink x).move f = (a.move f).withLink x := by
  unfold move
  have focus : (a.withLink x).focus = a.focus := rfl
  rw [focus]
  rcases h with h | h <;> rw [h] <;> rfl

theorem edit_withLink {a : App σ} (h : a.AtProblem) (f : EditBuffer → EditBuffer)
    (x : Link) : (a.withLink x).edit f = (a.edit f).withLink x :=
  move_withLink (a := {a with errors := a.errors.erase a.focus}) h f x

theorem focus_move (a : App σ) (f : EditBuffer → EditBuffer) : (a.move f).focus = a.focus := by
  obtain ⟨_, _, moved⟩ := move_eq a f
  rw [moved]

theorem focus_edit (a : App σ) (f : EditBuffer → EditBuffer) : (a.edit f).focus = a.focus :=
  focus_move _ f

/-- What a key comes to is the same whatever is in the link, and leaves the focus alone. -/
def Passes (a : App σ) (handle : App σ → App σ) : Prop :=
  (∀ x, handle (a.withLink x) = (handle a).withLink x) ∧ (handle a).focus = a.focus

theorem passes_helpKey (a : App σ) (key : Key) : a.Passes (·.helpKey key) := by
  unfold Passes helpKey
  split <;> exact ⟨fun _ => rfl, rfl⟩

theorem passes_command [Sink σ] (a : App σ) {key : Key} (clipboard : Clipboard)
    (quiet : key ∉ [.char 'r', .char 'f', .char 't', .char 'y']) :
    a.Passes (·.command clipboard key) := by
  unfold Passes command
  split
  case h_1 | h_2 | h_7 => exact ⟨fun _ => rfl, rfl⟩
  all_goals simp at quiet

theorem passes_typeKey {a : App σ} (h : a.AtProblem) {key : Key}
    (quiet : key ∉ [.tab, .backTab, .up, .down, .enter]) : a.Passes (·.typeKey key) := by
  have edits (f : EditBuffer → EditBuffer) : a.Passes (·.edit f) :=
    ⟨edit_withLink h f, focus_edit a f⟩
  have moves (f : EditBuffer → EditBuffer) : a.Passes (·.move f) :=
    ⟨move_withLink h f, focus_move a f⟩
  cases key with
  | tab | backTab | up | down | enter => simp at quiet
  | char c => exact edits (.insert c)
  | backspace => exact edits .backspace
  | delete => exact edits .delete
  | left => exact moves .left
  | right => exact moves .right
  | home => exact moves .home
  | toEnd => exact moves .toEnd
  | function n =>
    unfold Passes typeKey
    split <;> first | exact ⟨fun _ => rfl, rfl⟩ | contradiction
  | _ => exact ⟨fun _ => rfl, rfl⟩

/-- **A quiet key passes over the link.** -/
theorem passes_step [Sink σ] {a : App σ} (h : a.AtProblem) {e : Event} (quiet : a.QuietKey e) :
    a.Passes (·.step e) := by
  cases e with
  | key key control clipboard =>
    unfold Passes
    simp only [step, handle, show ∀ x, (a.withLink x).mode = a.mode from fun _ => rfl]
    cases mode : a.mode with
    | help => exact passes_helpKey a key
    | normal =>
      have asks := quiet mode
      cases control with
      | true => exact passes_command a clipboard asks
      | false => exact passes_typeKey h asks
  | _ => exact quiet.elim

/-! ### Either order -/

section Order

variable [Sink σ] {a : App σ} {f : App σ → App σ}

theorem AtProblem.step (h : a.AtProblem) {e : Event} (quiet : a.QuietKey e) :
    (a.step e).AtProblem := by
  unfold AtProblem
  rw [(passes_step h quiet).2]
  exact h

theorem link_step (h : a.AtProblem) {e : Event} (quiet : a.QuietKey e) :
    (a.step e).link = a.link := by
  have passed := (passes_step h quiet).1 a.link
  simp only [withLink_link] at passed
  rw [passed]
  rfl

/-- A change within the link and a quiet key may come in either order. -/
theorem Local.step_comm (hf : Local f) (h : a.AtProblem) {e : Event} (quiet : a.QuietKey e) :
    f (a.step e) = (f a).step e := by
  calc f (a.step e)
      = f ((a.step e).withLink a.link) := by
        rw [← link_step h quiet, withLink_link]
    _ = (a.step e).withLink (f a).link := hf a (a.step e)
    _ = (a.withLink (f a).link).step e := ((passes_step h quiet).1 _).symm
    _ = (f a).step e := by rw [← hf.eq_withLink a]

theorem AtProblem.run {keys : List Event} (h : a.AtProblem)
    (quiet : a.Throughout QuietKey keys) : (a.run keys).AtProblem := by
  induction keys generalizing a with
  | nil => exact h
  | cons e rest ih => exact ih (h.step quiet.1) quiet.2

theorem link_run {keys : List Event} (h : a.AtProblem)
    (quiet : a.Throughout QuietKey keys) : (a.run keys).link = a.link := by
  induction keys generalizing a with
  | nil => rfl
  | cons e rest ih => exact (ih (h.step quiet.1) quiet.2).trans (link_step h quiet.1)

/-- A change within the link may come before or after any number of quiet keys. -/
theorem Local.run_comm (hf : Local f) (h : a.AtProblem) {keys : List Event}
    (quiet : a.Throughout QuietKey keys) : f (a.run keys) = (f a).run keys := by
  induction keys generalizing a with
  | nil => rfl
  | cons e rest ih =>
    show f ((a.step e).run rest) = ((f a).step e).run rest
    rw [ih (h.step quiet.1) quiet.2, hf.step_comm h quiet.1]

/-- A change within the link may come in the middle of quiet keys or after them. -/
theorem Local.run_append (hf : Local f) (h : a.AtProblem) {before after : List Event}
    (quiet : a.Throughout QuietKey (before ++ after)) :
    (f (a.run before)).run after = f (a.run (before ++ after)) := by
  obtain ⟨first, last⟩ := throughout_append.mp quiet
  rw [App.run_append, hf.run_comm (h.run first) last]

end Order

/-- **It does not matter when a response arrives.** A request is pending, the first form has the
focus, and quiet keys follow. Whatever the outcome, and between whichever of the keys it is taken,
it is applied, and the client ends up as if it had been taken after all of them: in both forms with
their cursors, the messages, the status, the focus, the mode, the help, the request and everything
else. The same goes for the call and its collection: the call may end between any two keys and its
outcome be collected, either way, between any two later ones. -/
theorem arrival_time [Sink σ] (a : App σ) {id : RequestId} (pending : a.request = .pending id)
    (form : a.focus = .problem ∨ a.focus = .formula) (outcome : Outcome) (keys : List Event)
    (quiet : a.Throughout QuietKey keys) :
    (∀ before after, before ++ after = keys →
      ((a.run before).take ⟨id, outcome⟩).1 = true ∧
      ((a.run before).take ⟨id, outcome⟩).2.run after = ((a.run keys).take ⟨id, outcome⟩).2) ∧
    ∀ first between last, first ++ between ++ last = keys →
      ∀ collect ∈ [Event.collectAll, Event.collectNext],
        a.run (first ++ .finish id outcome :: between ++ collect :: last) =
          a.run (keys ++ [.finish id outcome, collect]) := by
  have h : a.AtProblem := form
  constructor
  · rintro before after rfl
    have kept := link_run h (throughout_append.mp quiet).1
    have still : (a.run before).request = .pending id := (congrArg (·.slot.state) kept).trans pending
    refine ⟨by rw [take_of_pending still], ?_⟩
    exact (local_take ⟨id, outcome⟩).run_append h quiet
  · rintro first between last rfl collect way
    have collected : Local fun a : App σ => a.step collect := by
      simp only [List.mem_cons, List.not_mem_nil, or_false] at way
      rcases way with rfl | rfl
      · exact local_collectAll
      · exact local_collectNext
    have ended := local_finish (σ := σ) id outcome
    have early := (throughout_append.mp quiet).1
    have one := ended.run_append h early
    have both := (collected.comp ended).run_append h quiet
    simp only [App.run_append, List.append_assoc, List.cons_append, App.run] at one both ⊢
    rw [one, both]

section Typing

open Export (Recorder)

/-- A problem of one letter has been submitted. -/
def asked : App Recorder :=
  (App.new {}).run [.key (.char 'p') false .unreachable, .key .enter false .unreachable]

/-- Another letter, a look at the help, where Tab does nothing, a deletion, and the end. -/
def typing : List Event :=
  [.key (.char 'q') false .unreachable, .key (.function 1) false .unreachable,
   .key .tab false .unreachable, .key .escape false .unreachable, .key .left false .unreachable,
   .key .delete false .unreachable, .key (.char 'c') true .unreachable]

theorem quiet_typing : asked.Throughout QuietKey typing :=
  ⟨fun _ => by decide, fun _ => by decide, fun normal => absurd normal (by decide),
    fun _ => by decide, fun _ => by decide, fun _ => by decide, fun _ => by decide, trivial⟩

/-- A result that comes while the help is open might as well come last. -/
theorem arrival_time_typing :
    let brings : Completion := ⟨1, .ok ⟨"V", .svg "F", .svg "I"⟩⟩
    asked.request = .pending 1 ∧ asked.focus = .problem ∧ asked.Throughout QuietKey typing ∧
    ((asked.run (typing.take 3)).take brings).2.run (typing.drop 3)
      = ((asked.run typing).take brings).2 := by
  refine ⟨rfl, rfl, quiet_typing, ?_⟩
  exact ((arrival_time asked rfl (.inl rfl) _ typing quiet_typing).1 (typing.take 3)
    (typing.drop 3) (List.take_append_drop 3 typing)).2

end Typing

end ProblemVisualizer.App
