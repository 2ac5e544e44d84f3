import ProblemVisualizer.Proofs.App.ErrorHistory
import ProblemVisualizer.Proofs.App.Timing
import ProblemVisualizer.Screen.View

/-! Before the first success and after it.

The form for visual language is closed until a success brings some, and from then
on it is open. `opening` says what this means to a person at the keys: while the
form is closed there is no way into it. It is not on the screen, Tab passes it by,
it holds neither text nor message, and nothing of it has ever been sent. And so at
every moment: the field that keys go to is one that can be seen. -/
namespace ProblemVisualizer.App

open Export (Sink)
open Form (Field FormName)
open Generation (Request)
open Session (Completion Starts Workers)
open Screen (Area Panel appPanels fieldCursor? isActive layout panelCursor? panels render)
open Text (EditBuffer)

variable {σ : Type}

/-! ### What is on the screen -/

/-- The panel is drawn in the area, on a screen of this size. -/
def Draws (a : App σ) (width height : Nat) (panel : Panel) (area : Area) : Prop :=
  (panel, area) ∈ layout (appPanels a) width height

theorem exists_draws_iff (a : App σ) (width height : Nat) (panel : Panel) :
    (∃ area, a.Draws width height panel area) ↔ panel ∈ appPanels a := by
  have shown : (layout (appPanels a) width height).map Prod.fst = appPanels a :=
    Screen.map_fst_stack ..
  rw [← shown]
  simp [Draws]

theorem field_mem_appPanels (a : App σ) (field : Field) :
    .field field ∈ appPanels a ↔ field ∈ a.tabOrder := by
  cases field <;> cases a.description.seeded <;> simp [appPanels, panels, tabOrder, *]

theorem resubmit_mem_appPanels (a : App σ) :
    .resubmit ∈ appPanels a ↔ a.description.seeded = true := by
  cases opened : a.description.seeded <;> simp [appPanels, panels, opened]

/-- A cursor on the screen is the one of the field that has the focus. -/
theorem exists_of_cursor {a : App σ} {width height : Nat} {spot : Nat × Nat}
    (cursor : (render a width height).cursor = some spot) :
    ∃ area, a.Draws width height (.field a.focus) area ∧
      fieldCursor? a a.focus area = some spot := by
  obtain ⟨⟨panel, area⟩, drawn, placed⟩ := List.exists_of_findSome?_eq_some cursor
  cases panel with
  | field field =>
    have active : isActive a field = true := by
      by_contra idle
      simp [panelCursor?, fieldCursor?, idle] at placed
    obtain rfl : a.focus = field := by
      simp only [isActive, Bool.and_eq_true, decide_eq_true_eq] at active
      exact active.1
    exact ⟨area, drawn, placed⟩
  | _ => cases placed

/-! ### The focus -/

/-- Tab passes by the description while its form is closed, and no other field. -/
theorem mem_tabOrder (a : App σ) (field : Field) :
    field ∈ a.tabOrder ↔ (field = .description → a.description.seeded = true) := by
  cases field <;> simp [tabOrder]

theorem focusAt_mem_tabOrder (a : App σ) (steps : Nat) : a.focusAt steps ∈ a.tabOrder := by
  have some : 0 < a.tabOrder.length := by simp [tabOrder]
  simp only [focusAt, List.getD_eq_getElem?_getD, List.getElem?_eq_getElem (Nat.mod_lt _ some),
    Option.getD_some]
  exact List.getElem_mem _

theorem focus_submit (a : App σ) (form : FormName) : (a.submit form).2.focus = a.focus := by
  obtain ⟨_, _, _, _, left⟩ := submit_eq a form
  rw [left]

theorem focus_command [Sink σ] (clipboard : Clipboard) (a : App σ) (key : Key) :
    (a.command clipboard key).focus = a.focus := by
  obtain ⟨_, _, _, _, _, _, left⟩ := command_eq clipboard a key
  rw [left]

theorem focus_typeKey (a : App σ) (key : Key) :
    (a.typeKey key).focus = a.focus ∨ ∃ steps, (a.typeKey key).focus = a.focusAt steps := by
  cases key with
  | tab | down => exact .inr ⟨1, rfl⟩
  | backTab | up => exact .inr ⟨_, rfl⟩
  | enter => exact .inl (focus_submit a _)
  | backspace | delete | char => exact .inl (focus_edit a _)
  | left | right | home | toEnd => exact .inl (focus_move a _)
  | function n =>
    unfold typeKey
    split <;> first | exact .inl rfl | contradiction
  | _ => exact .inl rfl

theorem focus_helpKey (a : App σ) (key : Key) : (a.helpKey key).focus = a.focus := by
  unfold helpKey
  split <;> rfl

theorem Collecting.focus {a : App σ} {cs : List Completion} {r : Nat × App σ}
    (c : Collecting a cs r) : r.2.focus = a.focus := by
  cases c <;> rfl

/-- Whatever happens, the focus stays where it is or goes to a place in the tab order. -/
theorem OneInFlight.focus_step [Sink σ] {a : App σ} (h : OneInFlight a) (e : Event) :
    (a.step e).focus = a.focus ∨ ∃ steps, (a.step e).focus = a.focusAt steps := by
  cases e with
  | key key control clipboard =>
    simp only [App.step, handle]
    cases a.mode with
    | help => exact .inl (focus_helpKey a key)
    | normal =>
      cases control with
      | true => exact .inl (focus_command clipboard a key)
      | false => exact focus_typeKey a key
  | edit edit => exact .inl (focus_edit a _)
  | submit form => exact .inl (focus_submit a form)
  | submitFocused => exact .inl (focus_submit a _)
  | call | finish => exact .inl rfl
  | collectAll => exact .inl h.collectAll.focus
  | collectNext => exact .inl h.collectNext.focus

/-- A field that Tab visits stays one. -/
theorem OneInFlight.tabOrder_subset [Sink σ] {a : App σ} (h : OneInFlight a) (e : Event) :
    a.tabOrder ⊆ (a.step e).tabOrder := by
  intro field visited
  rw [mem_tabOrder] at visited ⊢
  exact fun description => h.seeded_mono e (.inl (visited description))

theorem OneInFlight.focus_mem_step [Sink σ] {a : App σ} (h : OneInFlight a)
    (visited : a.focus ∈ a.tabOrder) (e : Event) : (a.step e).focus ∈ (a.step e).tabOrder := by
  refine h.tabOrder_subset e ?_
  rcases h.focus_step e with same | ⟨steps, moved⟩
  · rwa [same]
  · rw [moved]
    exact focusAt_mem_tabOrder a steps

/-! ### The closed form -/

/-- Nobody has had to do with the description form. -/
structure Untouched (a : App σ) : Prop where
  buffer : a.description.buffer = .empty
  error : a.errors.get? .description = none
  requests : ∀ text, .resubmit text ∉ a.workers.sent

theorem focus_of_movesInDescription {a : App σ} {e : Event} (moves : a.MovesInDescription e) :
    a.focus = .description := by
  cases e with
  | key => exact moves.2.2.1
  | _ => exact moves.elim

/-- Where the form is closed after an event, it was closed before, and no success came. -/
theorem OneInFlight.closed_before [Sink σ] {a : App σ} (h : OneInFlight a) {e : Event}
    (closed : (a.step e).description.seeded = false) :
    a.description.seeded = false ∧ ∀ result, a.success? e ≠ some result := by
  have still (opened : a.description.seeded = true ∨ ∃ result, a.success? e = some result) : False :=
    Bool.eq_false_iff.mp closed (h.seeded_mono e opened)
  exact ⟨Bool.eq_false_iff.mpr fun opened => still (.inl opened),
    fun result success => still (.inr ⟨result, success⟩)⟩

/-- A request that is issued while the form is closed is not one of its own. -/
theorem Works.resubmit_not_mem {a b : App σ} {form : Option FormName} (w : Works a b form)
    (closed : a.description.seeded = false) {text : String}
    (before : .resubmit text ∉ a.workers.sent) : .resubmit text ∉ b.workers.sent := by
  cases w with
  | others _ _ sent =>
    rw [sent]
    exact before
  | @assigned form request _ seeded checked _ workers =>
    have other : request ≠ .resubmit text := by
      rintro rfl
      cases snapshot_of_checked checked
      exact Bool.eq_false_iff.mp closed (seeded rfl)
    rw [workers, Workers.sent_assign, List.mem_append]
    refine not_or.mpr ⟨before, ?_⟩
    split
    · exact fun same => other (List.mem_singleton.mp same).symm
    · exact List.not_mem_nil

/-- As long as the form stays closed, an event does not touch it. -/
theorem Untouched.step [Sink σ] {a : App σ} (h : OneInFlight a) (untouched : a.Untouched)
    (visited : a.focus ∈ a.tabOrder) {e : Event} (closed : (a.step e).description.seeded = false) :
    (a.step e).Untouched := by
  obtain ⟨before, no_success⟩ := h.closed_before closed
  have elsewhere : a.focus ≠ .description := fun focus =>
    Bool.eq_false_iff.mp before ((mem_tabOrder a _).mp visited focus)
  refine ⟨?_, ?_, fun text => ?_⟩
  · rcases h.description_step e with ⟨result, success, -⟩ | ⟨-, edits | ⟨moves, -⟩ | kept⟩
    · exact absurd success (no_success result)
    · exact absurd ((edits_iff a _ e).mp edits).1 elsewhere
    · exact absurd (focus_of_movesInDescription moves) elsewhere
    · rw [kept]
      exact untouched.buffer
  · cases h.marks .description e with
    | set blocks => exact absurd (blocks.1.2.2 rfl) (Bool.eq_false_iff.mp before)
    | cleared _ _ none => exact none
    | kept _ same => exact same.trans untouched.error
  · exact (h.works e).resubmit_not_mem before (untouched.requests text)

/-! ### Whole histories -/

/-- The focus is where Tab could have put it, and a closed form has not been touched. -/
structure Guarded (a : App σ) : Prop where
  visited : a.focus ∈ a.tabOrder
  untouched : a.description.seeded = false → a.Untouched

theorem guarded_new (sink : σ) (starts : Starts) : (App.new sink starts).Guarded where
  visited := by simp [new, tabOrder]
  untouched _ := ⟨rfl, rfl, fun _ => List.not_mem_nil⟩

theorem OneInFlight.guarded_step [Sink σ] {a : App σ} (h : OneInFlight a) (guarded : a.Guarded)
    (e : Event) : (a.step e).Guarded where
  visited := h.focus_mem_step guarded.visited e
  untouched closed :=
    (guarded.untouched (h.closed_before closed).1).step h guarded.visited closed

/-- A field is written in only where it can be seen: what an event changes is on the screen then. -/
theorem Guarded.buffer_eq [Sink σ] {a : App σ} (h : OneInFlight a) (guarded : a.Guarded) (e : Event)
    {field : Field} (hidden : field ∉ (a.step e).tabOrder) :
    (a.step e).buffer field = a.buffer field := by
  rw [mem_tabOrder, Classical.not_imp, Bool.not_eq_true] at hidden
  obtain ⟨rfl, closed⟩ := hidden
  show (a.step e).description.buffer = a.description.buffer
  rw [((h.guarded_step guarded e).untouched closed).buffer,
    (guarded.untouched (h.closed_before closed).1).buffer]

/-- **The description form opens with the first success.** After any history it is open exactly
when some success has been applied, and once open it stays so. While it is closed it is empty, it
has neither the focus nor a message, no visual language has ever been sent, and neither its box nor
its button is drawn on a screen of any size. At every moment the focus is one of the fields that Tab
visits, and these are the fields that are drawn: so keys go to a field that is on the screen, the
cursor is drawn there and nowhere else, and whatever an event changes in a field can be seen. -/
theorem opening [Sink σ] (sink : σ) (starts : Starts) (history : List Event) :
    let start := App.new sink starts
    let a := start.run history
    (a.description.seeded = true ↔ start.Succeeded history) ∧
    (a.description.seeded = true → ∀ later, (a.run later).description.seeded = true) ∧
    (a.description.seeded = false →
      a.description.buffer = .empty ∧ a.focus ≠ .description ∧
      a.errors.get? .description = none ∧ (∀ text, .resubmit text ∉ a.workers.sent) ∧
      ∀ width height area, ¬ a.Draws width height (.field .description) area ∧
        ¬ a.Draws width height .resubmit area) ∧
    a.focus ∈ a.tabOrder ∧
    (∀ field ∈ a.tabOrder, ∀ width height, ∃ area, a.Draws width height (.field field) area) ∧
    (∀ width height spot, (render a width height).cursor = some spot →
      ∃ area, a.Draws width height (.field a.focus) area ∧
        fieldCursor? a a.focus area = some spot) ∧
    ∀ e field, (a.step e).buffer field ≠ a.buffer field → ∀ width height,
      ∃ area, (a.step e).Draws width height (.field field) area := by
  intro start a
  have fresh : OneInFlight start := oneInFlight_new sink starts
  have h : OneInFlight a := fresh.run history
  have guarded : a.Guarded := fresh.invariant OneInFlight.guarded_step (guarded_new sink starts) history
  have drawn {b : App σ} {field : Field} (visited : field ∈ b.tabOrder) (width height : Nat) :
      ∃ area, b.Draws width height (.field field) area :=
    (exists_draws_iff b width height _).mpr ((field_mem_appPanels b field).mpr visited)
  refine ⟨fresh.seeded_iff rfl history, fun opened later => h.seeded_run opened later,
    fun closed => ?_, guarded.visited, fun field visited => drawn visited,
    fun width height spot => exists_of_cursor, fun e field changed => ?_⟩
  · have passed_by : .description ∉ a.tabOrder := by
      rw [mem_tabOrder, closed]
      exact fun opened => Bool.false_ne_true (opened rfl)
    have untouched := guarded.untouched closed
    refine ⟨untouched.buffer, fun focus => passed_by (focus ▸ guarded.visited), untouched.error,
      untouched.requests, fun width height area => ⟨fun box => ?_, fun button => ?_⟩⟩
    · have := (exists_draws_iff a width height _).mp ⟨area, box⟩
      exact passed_by ((field_mem_appPanels a _).mp this)
    · have := (exists_draws_iff a width height _).mp ⟨area, button⟩
      exact Bool.eq_false_iff.mp closed ((resubmit_mem_appPanels a).mp this)
  · refine drawn (Classical.not_not.mp fun hidden => changed ?_)
    exact guarded.buffer_eq h e hidden

end ProblemVisualizer.App
