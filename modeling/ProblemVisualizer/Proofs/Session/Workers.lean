import ProblemVisualizer.Session.Workers

/-! Where a request is.

A request is out from the moment it is handed to a worker until its outcome is
collected: a worker has it in hand, or its outcome waits. Beside this runs the
account of the service (`sent`): the requests that it has received, and then those
of workers that are about to call. A call changes neither, and its end takes the
request from the worker to the outcomes. -/
namespace ProblemVisualizer.Session.Workers

open Generation (Request)

variable {w : Workers} {id : RequestId}

/-- Tickets that workers have in hand: those of calls to come, and those of calls that run. -/
def inHand (w : Workers) : List Ticket := w.ready ++ w.running

/-- The requests that are out. -/
def outstanding (w : Workers) : List RequestId :=
  w.inHand.map Ticket.id ++ w.arrived.map Completion.id

/-- The requests that the service has received, and those that it is about to receive. -/
def sent (w : Workers) : List Request := w.received ++ w.ready.map Ticket.request

/-- Nothing is out anywhere. -/
structure Idle (w : Workers) : Prop where
  ready : w.ready = []
  running : w.running = []
  arrived : w.arrived = []

theorem idle_of_outstanding (none_out : w.outstanding = []) : w.Idle := by
  simp only [outstanding, inHand, List.append_eq_nil_iff, List.map_eq_nil_iff] at none_out
  exact ⟨none_out.1.1, none_out.1.2, none_out.2⟩

/-- Where the one request that is out can be. -/
inductive Whereabouts (w : Workers) : RequestId → Prop where
  | ready {t : Ticket} (ready : w.ready = [t]) (running : w.running = []) (arrived : w.arrived = []) :
    Whereabouts w t.id
  | running {t : Ticket} (ready : w.ready = []) (running : w.running = [t])
    (arrived : w.arrived = []) : Whereabouts w t.id
  | arrived {c : Completion} (ready : w.ready = []) (running : w.running = [])
    (arrived : w.arrived = [c]) : Whereabouts w c.id

theorem whereabouts (out : w.outstanding = [id]) : w.Whereabouts id := by
  simp only [outstanding, inHand, List.map_append, List.append_assoc, List.append_eq_singleton_iff,
    List.append_eq_nil_iff, List.map_eq_nil_iff, List.map_eq_singleton_iff] at out
  rcases out with ⟨ready, ⟨running, c, arrived, rfl⟩ | ⟨⟨t, running, rfl⟩, arrived⟩⟩ |
    ⟨⟨t, ready, rfl⟩, running, arrived⟩
  · exact .arrived ready running arrived
  · exact .running ready running arrived
  · exact .ready ready running arrived

/-! ### Starting a worker -/

theorem outstanding_assign (none_out : w.outstanding = []) (ticket : Ticket) :
    (w.assign ticket).outstanding = [ticket.id] := by
  obtain ⟨ready, running, arrived⟩ := idle_of_outstanding none_out
  cases starts : w.starts ticket.id with
  | ok => simp [assign_of_ok starts, outstanding, inHand, ready, running, arrived]
  | error reason => simp [assign_of_error starts, outstanding, inHand, ready, running, arrived]

/-- A ticket whose worker starts will get its call of the service, and no other will. -/
theorem sent_assign (w : Workers) (ticket : Ticket) :
    (w.assign ticket).sent =
      w.sent ++ if (w.starts ticket.id).isOk then [ticket.request] else [] := by
  cases starts : w.starts ticket.id with
  | ok => simp [assign_of_ok starts, sent, Except.toBool]
  | error reason => simp [assign_of_error starts, sent, Except.toBool]

theorem received_assign (w : Workers) (ticket : Ticket) :
    (w.assign ticket).received = w.received := by
  unfold assign
  split <;> rfl

/-! ### The call -/

theorem call_of_ready {t : Ticket} (ready : w.ready = [t]) : w.call t.id =
    {w with ready := [], running := w.running ++ [t], received := w.received ++ [t.request]} := by
  simp [call, ready]

theorem call_of_not_ready (absent : ∀ t ∈ w.ready, t.id ≠ id) : w.call id = w := by
  have none : w.ready.find? (·.id = id) = none := by simpa using absent
  simp only [call, none]

/-- A call leaves its ticket in hand. -/
theorem perm_inHand_call (w : Workers) (id : RequestId) : (w.call id).inHand.Perm w.inHand := by
  unfold call
  split
  · rename_i ticket found
    obtain ⟨own, before, after, split, others⟩ := List.find?_eq_some_iff_append.mp found
    have erased : w.ready.eraseP (·.id = id) = before ++ after := by
      rw [split, List.eraseP_append_right _ (by simpa using others),
        List.eraseP_cons_of_pos (p := fun t : Ticket => decide (t.id = id)) own]
    simp only [inHand, erased]
    rw [split, ← List.append_assoc]
    have out := List.perm_append_singleton ticket (before ++ after ++ w.running)
    exact out.trans (List.perm_middle.symm.append_right w.running)
  · exact .refl _

theorem arrived_call (w : Workers) (id : RequestId) : (w.call id).arrived = w.arrived := by
  unfold call
  split <;> rfl

theorem perm_outstanding_call (w : Workers) (id : RequestId) :
    (w.call id).outstanding.Perm w.outstanding := by
  unfold outstanding
  rw [arrived_call]
  exact ((perm_inHand_call w id).map _).append_right _

theorem received_call_prefix (w : Workers) (id : RequestId) :
    w.received <+: (w.call id).received := by
  unfold call
  split
  · exact List.prefix_append ..
  · exact List.prefix_refl _

/-- Where one worker at most is about to call, its call brings what it was to bring. -/
theorem sent_call (one : w.ready.length ≤ 1) (id : RequestId) : (w.call id).sent = w.sent := by
  cases found : w.ready.find? (·.id = id) with
  | none => simp only [call, found]
  | some t =>
    have there := List.mem_of_find?_eq_some found
    have alone : w.ready = [t] := by
      obtain ⟨u, ready⟩ :=
        List.length_eq_one_iff.mp (Nat.le_antisymm one (List.length_pos_of_mem there))
      rw [ready, List.mem_singleton] at there
      rw [ready, there]
    obtain rfl : t.id = id := by simpa using List.find?_some found
    simp [call_of_ready alone, sent, alone]

/-! ### Its answer -/

/-- An answer takes a request from its worker to the outcomes. -/
theorem perm_outstanding_answer (w : Workers) (id : RequestId) (outcome : Outcome) :
    (w.answer id outcome).outstanding.Perm w.outstanding := by
  unfold answer
  split
  · rename_i h
    obtain ⟨t, ht, hid⟩ := List.any_eq_true.mp h
    obtain ⟨u, before, after, _, hu, split, erased⟩ :=
      List.exists_of_eraseP (p := fun t => decide (t.id = id)) ht hid
    have hu : u.id = id := of_decide_eq_true hu
    simp only [outstanding, inHand, erased]
    rw [split]
    simp only [List.map_append, List.map_cons, List.map_nil, hu, List.append_assoc, List.cons_append]
    refine List.Perm.append_left _ (List.Perm.append_left _ ?_)
    rw [← List.append_assoc]
    exact List.perm_append_singleton id _
  · exact .refl _

theorem inHand_answer_subset (w : Workers) (id : RequestId) (outcome : Outcome) :
    (w.answer id outcome).inHand ⊆ w.inHand := by
  unfold answer
  split
  · exact List.append_subset.mpr ⟨List.subset_append_left .., fun t ht =>
      List.mem_append_right _ (List.eraseP_subset ht)⟩
  · exact List.Subset.refl _

theorem sent_answer (w : Workers) (id : RequestId) (outcome : Outcome) :
    (w.answer id outcome).sent = w.sent := by
  unfold answer
  split <;> rfl

theorem received_answer (w : Workers) (id : RequestId) (outcome : Outcome) :
    (w.answer id outcome).received = w.received := by
  unfold answer
  split <;> rfl

/-! ### One request -/

/-- When the worker of the only request that is out gets done, an outcome is there to be
collected. -/
theorem arrived_finish_ne_nil (out : w.outstanding = [id]) (outcome : Outcome) :
    (w.finish id outcome).arrived ≠ [] := by
  unfold finish
  cases whereabouts out with
  | ready ready running => simp [call_of_ready ready, answer, running]
  | running ready running =>
    rw [call_of_not_ready (by simp [ready])]
    simp [answer, running]
  | arrived ready running arrived =>
    rw [call_of_not_ready (by simp [ready])]
    simp [answer, running, arrived]

/-- Once the worker of the only request that is out has called, the service has received all that
was to be sent. -/
theorem received_call (out : w.outstanding = [id]) : (w.call id).received = w.sent := by
  cases whereabouts out with
  | ready ready => simp [call_of_ready ready, sent, ready]
  | running ready | arrived ready =>
    rw [call_of_not_ready (by simp [ready])]
    simp [sent, ready]

end ProblemVisualizer.Session.Workers
