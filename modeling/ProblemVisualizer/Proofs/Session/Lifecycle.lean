import ProblemVisualizer.Session.Slot

/-! The life of a slot, operation by operation.

Anyone may ask the slot to admit any request, at any time, and may report any
outcome under any number: one that was never given, one that is long over, the
same one twice. `lifecycle` says what the slot makes of every such list of
operations, starting empty. Admitted requests are numbered 1, 2, 3, …; a request
is refused exactly while another is pending; a number is completed at most once,
and only while it is the pending one; and the log of transitions is a chain from
the idle state to the present one in which admissions and endings take turns.

`Reached` is what all of this is read off: the five ways in which answers, log
and slot can come about. Numbers are natural numbers and do not run out. -/
namespace ProblemVisualizer.Session.Slot

open Generation (Request)

inductive Operation where
  | begin (request : Request)
  | complete (id : RequestId) (outcome : Outcome)

/-- What came of an operation. -/
inductive Answer where
  | admitted (ticket : Ticket)
  | refused (busy : Busy)
  | applied (id : RequestId)
  | dropped (id : RequestId)
deriving DecidableEq

namespace Answer

def ticket? : Answer → Option Ticket
  | admitted ticket => some ticket
  | _ => none

/-- Whether the operation was accepted, that is, changed the state. -/
def accepted : Answer → Bool
  | admitted _ | applied _ => true
  | refused _ | dropped _ => false

end Answer

section Running

variable {ω : Type} [Observer ω]

def operate (s : Slot) (watch : ω) : Operation → Answer × Slot × ω
  | .begin request =>
    match s.begin request watch with
    | .ok (ticket, s, watch) => (.admitted ticket, s, watch)
    | .error busy => (.refused busy, s, watch)
  | .complete id outcome =>
    let (applied, s, watch) := s.complete id outcome watch
    (if applied then .applied id else .dropped id, s, watch)

/-- The answers to a list of operations, and what they leave. -/
def run (s : Slot) (watch : ω) : List Operation → List Answer × Slot × ω
  | [] => ([], s, watch)
  | op :: rest =>
    let (answer, s, watch) := s.operate watch op
    let (answers, s, watch) := run s watch rest
    (answer :: answers, s, watch)

/-! ### One operation -/

theorem pending_or_free (s : Slot) : (∃ id, s.state = .pending id) ∨ s.isPending = false := by
  unfold isPending RequestState.isPending
  cases s.state <;> simp

theorem begin_of_free {s : Slot} (free : s.isPending = false) (request : Request) (watch : ω) :
    s.begin request watch = .ok (⟨s.issued + 1, request⟩, ⟨.pending (s.issued + 1), s.issued + 1⟩,
      Observer.observe ⟨s.state, .pending (s.issued + 1)⟩ watch) := by
  unfold begin
  split
  · rename_i id hs
    simp [isPending, hs, RequestState.isPending] at free
  · rfl

theorem begin_of_pending {s : Slot} {id : RequestId} (pending : s.state = .pending id)
    (request : Request) (watch : ω) : s.begin request watch = .error ⟨id⟩ := by
  simp only [begin, pending]

theorem complete_of_pending {s : Slot} {id : RequestId} (pending : s.state = .pending id)
    (outcome : Outcome) (watch : ω) :
    s.complete id outcome watch = (true, {s with state := .ofOutcome outcome},
      Observer.observe ⟨.pending id, .ofOutcome outcome⟩ watch) := by
  simp only [complete, pending, if_true, moveTo]

theorem complete_of_ne {s : Slot} {id : RequestId} (other : s.state ≠ .pending id)
    (outcome : Outcome) (watch : ω) : s.complete id outcome watch = (false, s, watch) := by
  unfold complete
  split
  · rename_i inFlight hs
    rw [if_neg]
    rintro rfl
    exact other hs
  · rfl

/-- Requests are refused exactly while one is pending, and the refusal names it. -/
theorem begin_eq_error_iff (s : Slot) (request : Request) (watch : ω) (busy : Busy) :
    s.begin request watch = .error busy ↔ s.state = .pending busy.inFlight := by
  obtain ⟨inFlight⟩ := busy
  rcases s.pending_or_free with ⟨id, pending⟩ | free
  · rw [begin_of_pending pending, pending]
    simp
  · rw [begin_of_free free]
    simp only [reduceCtorEq, false_iff]
    intro pending
    simp [isPending, pending, RequestState.isPending] at free

/-- An outcome is taken exactly when it comes under the pending number. -/
theorem complete_eq_true_iff (s : Slot) (id : RequestId) (outcome : Outcome) (watch : ω) :
    (s.complete id outcome watch).1 = true ↔ s.state = .pending id := by
  by_cases pending : s.state = .pending id
  · simp [complete_of_pending pending, pending]
  · simp [complete_of_ne pending, pending]

end Running

/-- Tells an observer of transitions, the first one first. -/
def tell {ω : Type} [Observer ω] (log : List Transition) (watch : ω) : ω :=
  log.foldl (fun watch t => Observer.observe t watch) watch

theorem tell_append {ω : Type} [Observer ω] (a b : List Transition) (watch : ω) :
    tell (a ++ b) watch = tell b (tell a watch) := List.foldl_append

theorem tell_log (log told : List Transition) : tell told log = log ++ told := by
  induction told generalizing log with
  | nil => exact (List.append_nil log).symm
  | cons t rest ih =>
    show tell rest (log ++ [t]) = _
    rw [ih, List.append_assoc, List.singleton_append]

/-- What an operation can do: the answer it gives, the transitions it tells of and the slot it
leaves. -/
inductive Step (s : Slot) : Operation → Answer → List Transition → Slot → Prop where
  | accept (free : s.isPending = false) (request : Request) :
    Step s (.begin request) (.admitted ⟨s.issued + 1, request⟩)
      [⟨s.state, .pending (s.issued + 1)⟩] ⟨.pending (s.issued + 1), s.issued + 1⟩
  | refuse {id : RequestId} (pending : s.state = .pending id) (request : Request) :
    Step s (.begin request) (.refused ⟨id⟩) [] s
  | apply {id : RequestId} (pending : s.state = .pending id) (outcome : Outcome) :
    Step s (.complete id outcome) (.applied id) [⟨.pending id, .ofOutcome outcome⟩]
      {s with state := .ofOutcome outcome}
  | drop {id : RequestId} (other : s.state ≠ .pending id) (outcome : Outcome) :
    Step s (.complete id outcome) (.dropped id) [] s

/-- Every operation does one of these things, whoever watches. -/
theorem exists_step (s : Slot) (op : Operation) :
    ∃ answer told after, Step s op answer told after ∧
      ∀ (ω : Type) [Observer ω] (watch : ω), s.operate watch op = (answer, after, tell told watch) := by
  cases op with
  | begin request =>
    rcases s.pending_or_free with ⟨id, pending⟩ | free
    · exact ⟨_, _, _, .refuse pending request, fun ω _ watch => by
        simp only [operate, begin_of_pending pending]; rfl⟩
    · exact ⟨_, _, _, .accept free request, fun ω _ watch => by
        simp only [operate, begin_of_free free]; rfl⟩
  | complete id outcome =>
    by_cases pending : s.state = .pending id
    · exact ⟨_, _, _, .apply pending outcome, fun ω _ watch => by
        simp only [operate, complete_of_pending pending]; rfl⟩
    · exact ⟨_, _, _, .drop pending outcome, fun ω _ watch => by
        simp only [operate, complete_of_ne pending]; rfl⟩

/-- A refusal and a dropped outcome leave everything as it was. -/
theorem operate_of_not_accepted {ω : Type} [Observer ω] (s : Slot) (watch : ω) (op : Operation)
    (h : (s.operate watch op).1.accepted = false) : (s.operate watch op).2 = (s, watch) := by
  obtain ⟨answer, told, after, step, told_to⟩ := exists_step s op
  rw [told_to] at h ⊢
  cases step with
  | accept => cases h
  | refuse => rfl
  | apply => cases h
  | drop => rfl

/-! ### Lists of operations -/

/-- Answers, log and slot that operations on the empty slot can come to. -/
inductive Reached : List Answer → List Transition → Slot → Prop where
  | start : Reached [] [] {}
  | step {answers log s op answer told after} : Reached answers log s → Step s op answer told after →
    Reached (answers ++ [answer]) (log ++ told) after

theorem Reached.run {answers : List Answer} {log : List Transition} {s : Slot}
    (h : Reached answers log s) (ops : List Operation) :
    ∃ more told after, Reached (answers ++ more) (log ++ told) after ∧
      ∀ (ω : Type) [Observer ω] (watch : ω), s.run watch ops = (more, after, tell told watch) := by
  induction ops generalizing answers log s with
  | nil => exact ⟨[], [], s, by simpa using h, fun ω _ watch => rfl⟩
  | cons op rest ih =>
    obtain ⟨answer, told, after, step, one⟩ := exists_step s op
    obtain ⟨more, told', after', reached, many⟩ := ih (h.step step)
    refine ⟨answer :: more, told ++ told', after', by simpa using reached, fun ω _ watch => ?_⟩
    simp only [Slot.run, one, many, tell_append]

namespace Reached

variable {answers : List Answer} {log : List Transition} {s : Slot}

theorem ids_eq (h : Reached answers log s) :
    (answers.filterMap Answer.ticket?).map Ticket.id = List.range' 1 s.issued := by
  induction h with
  | start => rfl
  | step _ step ih =>
    cases step <;> simp [Answer.ticket?, ih, List.range'_concat, Nat.add_comm]

/-- The pending number is the last one given. -/
theorem eq_issued (h : Reached answers log s) {id : RequestId} (pending : s.state = .pending id) :
    id = s.issued ∧ 1 ≤ s.issued := by
  induction h with
  | start => cases pending
  | step _ step ih =>
    cases step with
    | accept => exact ⟨(RequestState.pending.inj pending).symm, Nat.le_add_left ..⟩
    | refuse => exact ih pending
    | apply => exact absurd pending (by simp)
    | drop => exact ih pending

/-- Each number given is completed once, except the one that is still pending. -/
theorem count_applied (h : Reached answers log s) (id : RequestId) :
    answers.count (.applied id) =
      if 1 ≤ id ∧ id ≤ s.issued ∧ s.state ≠ .pending id then 1 else 0 := by
  induction h with
  | start =>
    rw [if_neg fun given => absurd (Nat.le_trans given.1 given.2.1) (by decide)]
    rfl
  | @step answers log s _ _ _ _ reached step ih =>
    rw [List.count_append, ih]
    cases step with
    | accept free =>
      have : s.state ≠ .pending id := by
        intro pending
        simp [isPending, pending] at free
      simp only [List.count_singleton, beq_iff_eq]
      grind
    | refuse => simp
    | @apply inFlight pending =>
      have := reached.eq_issued pending
      simp only [pending, List.count_singleton, RequestState.pending.injEq, ne_eq,
        RequestState.ofOutcome_ne_pending, not_false_eq_true, and_true, beq_iff_eq,
        Answer.applied.injEq]
      grind
    | drop => simp

/-- Every acceptance is told of, and nothing else is. -/
theorem length_eq_countP (h : Reached answers log s) :
    log.length = answers.countP Answer.accepted := by
  induction h with
  | start => rfl
  | step _ step ih => cases step <;> simp [ih, Answer.accepted]

/-- Two transitions for each number given, but one only for the number that is pending. -/
theorem length_add_eq (h : Reached answers log s) : log.length + s.isPending.toNat = 2 * s.issued := by
  induction h with
  | start => rfl
  | step _ step ih =>
    cases step with
    | accept free =>
      rw [free] at ih
      simp only [isPending, RequestState.isPending_pending, List.length_append,
        List.length_singleton, Bool.toNat_true, Bool.toNat_false] at ih ⊢
      omega
    | refuse => simpa using ih
    | apply pending =>
      simp only [isPending, pending, RequestState.isPending_pending,
        RequestState.isPending_ofOutcome, List.length_append, List.length_singleton,
        Bool.toNat_true, Bool.toNat_false] at ih ⊢
      omega
    | drop => simpa using ih

end Reached

/-! ### The log -/

/-- A move into the pending state under the number `id`, from a state that is not pending. -/
def Admits (id : RequestId) (t : Transition) : Prop :=
  t.previous.isPending = false ∧ t.current = .pending id

/-- A move out of the pending state under the number `id`, to a success or a failure. -/
def Ends (id : RequestId) (t : Transition) : Prop :=
  t.previous = .pending id ∧
    ((∃ result, t.current = .succeeded result) ∨ ∃ message, t.current = .failed message)

/-- An unbroken account of how the idle state became `state`: each transition begins where the one
before it ended, and admissions and endings take turns under the numbers 1, 2, 3, …. -/
structure Chronicle (log : List Transition) (state : RequestState) : Prop where
  first : ∀ t, log.head? = some t → t.previous = .idle
  chained : ∀ (i : Nat) (t u : Transition), log[i]? = some t → log[i + 1]? = some u →
    u.previous = t.current
  last : (log.getLast?.map Transition.current).getD .idle = state
  turns : ∀ (i : Nat) (t : Transition), log[i]? = some t →
    if i % 2 = 0 then Admits (i / 2 + 1) t else Ends (i / 2 + 1) t

theorem getElem?_concat_cases {log : List Transition} {t u : Transition} {i : Nat}
    (h : (log ++ [t])[i]? = some u) : log[i]? = some u ∨ i = log.length ∧ u = t := by
  rw [List.getElem?_append] at h
  split at h
  · exact .inl h
  · rw [List.getElem?_singleton] at h
    split at h
    · exact .inr ⟨by omega, (Option.some.inj h).symm⟩
    · cases h

/-- One more transition, from the state that the account has come to and in its turn. -/
theorem Chronicle.concat {log : List Transition} {state : RequestState} (h : Chronicle log state)
    (t : Transition) (linked : t.previous = state)
    (turn : if log.length % 2 = 0 then Admits (log.length / 2 + 1) t
      else Ends (log.length / 2 + 1) t) : Chronicle (log ++ [t]) t.current where
  first u hu := by
    cases log with
    | nil =>
      obtain rfl : t = u := Option.some.inj hu
      rw [linked, ← h.last]
      rfl
    | cons head rest => exact h.first u hu
  chained i a b ha hb := by
    rcases getElem?_concat_cases hb with hb | ⟨hi, rfl⟩
    · rcases getElem?_concat_cases ha with ha | ⟨hi, _⟩
      · exact h.chained i a b ha hb
      · have := (List.getElem?_eq_some_iff.mp hb).1
        omega
    · rcases getElem?_concat_cases ha with ha | ⟨hi', _⟩
      · have hlast : log.getLast? = some a := by
          rw [List.getLast?_eq_getElem?, ← hi]
          exact ha
        rw [linked, ← h.last, hlast]
        rfl
      · omega
  last := by simp
  turns i u hu := by
    rcases getElem?_concat_cases hu with hu | ⟨rfl, rfl⟩
    · exact h.turns i u hu
    · exact turn

theorem Reached.chronicle {answers : List Answer} {log : List Transition} {s : Slot}
    (h : Reached answers log s) : Chronicle log s.state := by
  induction h with
  | start =>
    exact ⟨fun t ht => absurd ht (by simp), fun i t u ht => absurd ht (by simp), rfl,
      fun i t ht => absurd ht (by simp)⟩
  | @step answers log s _ _ _ _ reached step ih =>
    have count := reached.length_add_eq
    cases step with
    | accept free =>
      rw [free, Bool.toNat_false] at count
      refine ih.concat ⟨s.state, .pending (s.issued + 1)⟩ rfl ?_
      rw [if_pos (by omega)]
      have : log.length / 2 = s.issued := by omega
      exact ⟨free, by rw [this]⟩
    | refuse => simpa using ih
    | @apply id pending outcome =>
      obtain ⟨rfl, given⟩ := reached.eq_issued pending
      have : s.isPending = true := by rw [isPending, pending]; rfl
      rw [this, Bool.toNat_true] at count
      refine ih.concat ⟨.pending s.issued, .ofOutcome outcome⟩ pending.symm ?_
      rw [if_neg (by omega)]
      have : log.length / 2 + 1 = s.issued := by omega
      refine ⟨by rw [this], ?_⟩
      cases outcome with
      | ok result => exact .inl ⟨result, rfl⟩
      | error e => exact .inr ⟨e.message, rfl⟩
    | drop => simpa using ih

/-! ### The whole life -/

/-- **The life of a slot.** After any operations on the empty slot, with any outcomes under any
numbers: the numbers given out are 1, 2, 3, … up to the last; each of them was completed exactly
once, unless it is still pending, and no other number ever was; a request is refused exactly while
one is pending, naming it, and otherwise gets the next number; an outcome is taken exactly under
the pending number; what is not accepted changes nothing; and whoever watches is told of one
transition for each acceptance, which together are a chronicle of the slot. -/
theorem lifecycle (ops : List Operation) :
    let ran := ({} : Slot).run ([] : List Transition) ops
    let answers := ran.1
    let s := ran.2.1
    let log := ran.2.2
    (answers.filterMap Answer.ticket?).map Ticket.id = List.range' 1 s.issued ∧
    (∀ id, answers.count (.applied id) =
      if 1 ≤ id ∧ id ≤ s.issued ∧ s.state ≠ .pending id then 1 else 0) ∧
    log.length = answers.countP Answer.accepted ∧
    Chronicle log s.state ∧
    ∀ (ω : Type) [Observer ω] (watch : ω),
      ({} : Slot).run watch ops = (answers, s, tell log watch) ∧
      (∀ request busy, s.begin request watch = .error busy ↔ s.state = .pending busy.inFlight) ∧
      (∀ request ticket after, s.begin request watch = .ok (ticket, after) →
        ticket = ⟨s.issued + 1, request⟩) ∧
      (∀ id outcome, (s.complete id outcome watch).1 = true ↔ s.state = .pending id) ∧
      (∀ op, (s.operate watch op).1.accepted = false → (s.operate watch op).2 = (s, watch)) := by
  obtain ⟨answers, log, s, reached, told⟩ := Reached.start.run ops
  simp only [List.nil_append] at reached
  simp only [told, tell_log, List.nil_append]
  refine ⟨reached.ids_eq, reached.count_applied, reached.length_eq_countP, reached.chronicle,
    fun ω _ watch => ⟨trivial, fun request busy => begin_eq_error_iff s request watch busy,
      fun request ticket after h => ?_,
      fun id outcome => complete_eq_true_iff s id outcome watch, operate_of_not_accepted s watch⟩⟩
  rcases s.pending_or_free with ⟨id, pending⟩ | free
  · simp [begin_of_pending pending] at h
  · simp only [begin_of_free free, Except.ok.injEq, Prod.mk.injEq] at h
    exact h.1.symm

end ProblemVisualizer.Session.Slot
