import Mathlib.Data.List.Forall2
import Mathlib.Logic.ExistsUnique
import ProblemVisualizer.Proofs.Screen.Stacking

/-! Each panel in its own area.

The areas of the screen come from a rule. `Divided` is what such a rule owes while
there is room: an area for each constraint, with the rows that it asks for, each
area below the one before. Where one area may grow this leaves the rule no choice
(`Divides.eq_divide`). What remains to be seen is that the constraints and the
panels, which are listed apart from each other, belong together. `own_areas` says
that they do in every state of the client: each panel is drawn in the area that was
asked for on its account, and the screen is the one of `render`. -/
namespace ProblemVisualizer.Screen

variable {σ : Type} {whole : Area} {cs : List Constraint} {parts : List Area} {top bottom : Nat}

/-! ### Areas on one another -/

/-- The areas follow one another from a row down to another, without a row between them. -/
inductive Stacked : Nat → List Area → Nat → Prop where
  | nil (y : Nat) : Stacked y [] y
  | cons {area : Area} {rest : List Area} {bottom : Nat} (below : Stacked area.bottom rest bottom) :
    Stacked area.y (area :: rest) bottom

theorem stacked_nil : Stacked top [] bottom ↔ top = bottom := by
  constructor
  · rintro ⟨⟩
    rfl
  · rintro rfl
    exact .nil top

theorem stacked_cons {area : Area} {rest : List Area} :
    Stacked top (area :: rest) bottom ↔ area.y = top ∧ Stacked area.bottom rest bottom := by
  constructor
  · intro h
    cases h with
    | cons below => exact ⟨rfl, below⟩
  · rintro ⟨rfl, below⟩
    exact .cons below

/-- The second area starts where the first one ends. -/
def Adjoins (upper lower : Area) : Prop := lower.y = upper.bottom

theorem stacked_iff (some : parts ≠ []) : Stacked top parts bottom ↔
    (∀ part ∈ parts.head?, part.y = top) ∧ parts.IsChain Adjoins ∧
      ∀ part ∈ parts.getLast?, part.bottom = bottom := by
  induction parts generalizing top with
  | nil => exact absurd rfl some
  | cons area rest ih =>
    rw [stacked_cons]
    cases rest with
    | nil => simp [stacked_nil]
    | cons lower more =>
      rw [ih (List.cons_ne_nil _ _), List.isChain_cons_cons]
      simp [Adjoins, and_assoc]

theorem Stacked.top_le (h : Stacked top parts bottom) {part : Area} (among : part ∈ parts) :
    top ≤ part.y := by
  induction h with
  | nil => cases among
  | @cons area rest bottom below ih =>
    rcases List.mem_cons.mp among with rfl | further
    · exact Nat.le_refl _
    · have inside : area.bottom ≤ part.y := ih further
      exact Nat.le_trans (Nat.le_add_right ..) inside

/-- Each row belongs to one of the panels and to no other. -/
theorem Stacked.existsUnique_row {drawn : List (Panel × Area)}
    (h : Stacked top (drawn.map Prod.snd) bottom) {y : Nat} (after : top ≤ y) (before : y < bottom) :
    ∃! p, p ∈ drawn ∧ p.2.y ≤ y ∧ y < p.2.bottom := by
  induction drawn generalizing top with
  | nil =>
    have none : top = bottom := stacked_nil.mp h
    omega
  | cons first rest ih =>
    obtain ⟨rfl, below⟩ := stacked_cons.mp h
    have lower {p : Panel × Area} (hp : p ∈ rest) : first.2.bottom ≤ p.2.y :=
      below.top_le (List.mem_map_of_mem hp)
    by_cases here : y < first.2.bottom
    · refine ⟨first, ⟨List.mem_cons_self, after, here⟩, ?_⟩
      rintro p ⟨hp, starts, -⟩
      rcases List.mem_cons.mp hp with rfl | further
      · rfl
      · have := lower further
        omega
    · obtain ⟨p, ⟨hp, inside⟩, only⟩ := ih below (by omega)
      refine ⟨p, ⟨List.mem_cons_of_mem _ hp, inside⟩, ?_⟩
      rintro q ⟨hq, rows⟩
      rcases List.mem_cons.mp hq with rfl | further
      · omega
      · exact only q ⟨further, rows⟩

/-! ### What a rule owes -/

/-- A part of an area that answers a constraint: it has the columns of the whole, and the rows that
are asked for. -/
structure Answers (whole : Area) (c : Constraint) (part : Area) : Prop where
  left : part.x = whole.x
  width : part.width = whole.width
  enough : c.rows ≤ part.height
  fixed : c.grows = false → part.height = c.rows

/-- The parts of an area that is divided by constraints: one for each of them, from the first row
down, and to the last row if there is one that may grow. -/
structure Divided (whole : Area) (cs : List Constraint) (parts : List Area) : Prop where
  answers : List.Forall₂ (Answers whole) cs parts
  first : ∀ part ∈ parts.head?, part.y = whole.y
  next : parts.IsChain Adjoins
  last : (∃ c ∈ cs, c.grows = true) → ∀ part ∈ parts.getLast?, part.bottom = whole.bottom

/-- A rule that keeps to the constraints while there is room for what they ask. -/
def Divides (split : Divider) : Prop :=
  ∀ whole cs, asked cs ≤ whole.height → Divided whole cs (split whole cs)

theorem Divided.stacked (h : Divided whole cs parts) (grows : ∃ c ∈ cs, c.grows = true) :
    Stacked whole.y parts whole.bottom := by
  have some : parts ≠ [] := by
    rintro rfl
    obtain ⟨c, hc, -⟩ := grows
    rw [List.forall₂_nil_right_iff.mp h.answers] at hc
    cases hc
  exact (stacked_iff some).mpr ⟨h.first, h.next, h.last grows⟩

theorem Answers.eq {c : Constraint} {part : Area} (h : Answers whole c part) :
    part = ⟨whole.x, part.y, whole.width, part.height⟩ := by
  rw [← h.left, ← h.width]

theorem asked_cons (c : Constraint) (cs : List Constraint) :
    asked (c :: cs) = c.rows + asked cs := rfl

/-- Parts that may not grow lie where the rows above them end. -/
theorem eq_divideFrom_of_fixed (answers : List.Forall₂ (Answers whole) cs parts)
    (stacked : Stacked top parts bottom) (fixed : ∀ c ∈ cs, c.grows = false) (spare : Nat) :
    parts = divideFrom whole spare top cs ∧ bottom = top + asked cs := by
  induction answers generalizing top with
  | nil => exact ⟨rfl, (stacked_nil.mp stacked).symm⟩
  | @cons c part cs parts first rest ih =>
    obtain ⟨rfl, below⟩ := stacked_cons.mp stacked
    obtain ⟨same, rfl⟩ := ih below fun d hd => fixed d (List.mem_cons_of_mem c hd)
    cases c with
    | length rows =>
      obtain rfl : part.height = rows := first.fixed rfl
      exact ⟨congrArg₂ List.cons first.eq same, Nat.add_assoc ..⟩
    | atLeast rows => cases fixed _ List.mem_cons_self

/-- A part that may grow has what the others leave. -/
theorem exists_eq_divideFrom (answers : List.Forall₂ (Answers whole) cs parts)
    (stacked : Stacked top parts bottom) (one : cs.countP Constraint.grows = 1) :
    ∃ spare, parts = divideFrom whole spare top cs ∧ bottom = top + (spare + asked cs) := by
  induction answers generalizing top with
  | nil => cases one
  | @cons c part cs parts first rest ih =>
    obtain ⟨rfl, below⟩ := stacked_cons.mp stacked
    cases c with
    | length rows =>
      obtain ⟨spare, same, rfl⟩ := ih below one
      obtain rfl : part.height = rows := first.fixed rfl
      refine ⟨spare, congrArg₂ List.cons first.eq same, ?_⟩
      simp only [asked_cons, Constraint.rows, Area.bottom]
      omega
    | atLeast rows =>
      rw [List.countP_cons_of_pos rfl] at one
      have fixed : ∀ c ∈ cs, c.grows = false := by
        intro c hc
        have still : ¬ c.grows = true := List.countP_eq_zero.mp (Nat.succ.inj one) c hc
        exact Bool.eq_false_iff.mpr still
      obtain ⟨same, rfl⟩ := eq_divideFrom_of_fixed rest below fixed 0
      have enough : rows ≤ part.height := first.enough
      refine ⟨part.height - rows, ?_, ?_⟩
      · rw [divideFrom, Nat.sub_add_cancel enough]
        exact congrArg₂ List.cons first.eq same
      · simp only [asked_cons, Constraint.rows, Area.bottom]
        omega

/-- Where one part may grow, a rule has no choice. -/
theorem Divides.eq_divide {split : Divider} (h : Divides split) (room : asked cs ≤ whole.height)
    (one : cs.countP Constraint.grows = 1) : split whole cs = divide whole cs := by
  have grows : ∃ c ∈ cs, c.grows = true := List.countP_pos_iff.mp (by omega)
  have divided := h whole cs room
  obtain ⟨spare, same, bottom⟩ := exists_eq_divideFrom divided.answers (divided.stacked grows) one
  have left_over : spare = whole.height - asked cs := by
    unfold Area.bottom at bottom
    omega
  rw [same, left_over]
  rfl

/-! ### The rule of the client -/

theorem answers_divideFrom (whole : Area) (spare y : Nat) (cs : List Constraint) :
    List.Forall₂ (Answers whole) cs (divideFrom whole spare y cs) := by
  induction cs generalizing spare y with
  | nil => exact .nil
  | cons c rest ih =>
    cases c with
    | length rows => exact .cons ⟨rfl, rfl, Nat.le_refl _, fun _ => rfl⟩ (ih _ _)
    | atLeast rows => exact .cons ⟨rfl, rfl, Nat.le_add_left .., nofun⟩ (ih _ _)

/-- The parts are stacked, and all the rows are used if there are none to spare or a part may
grow. -/
theorem exists_stacked_divideFrom (whole : Area) (spare y : Nat) (cs : List Constraint) :
    ∃ bottom, Stacked y (divideFrom whole spare y cs) bottom ∧
      ((spare = 0 ∨ ∃ c ∈ cs, c.grows = true) → bottom = y + (spare + asked cs)) := by
  induction cs generalizing spare y with
  | nil =>
    refine ⟨y, .nil y, fun used => ?_⟩
    obtain rfl : spare = 0 := by simpa using used
    rfl
  | cons c rest ih =>
    cases c with
    | length rows =>
      obtain ⟨bottom, below, all⟩ := ih spare (y + rows)
      refine ⟨bottom, stacked_cons.mpr ⟨rfl, below⟩, fun used => ?_⟩
      rw [all (by simpa [Constraint.grows] using used), asked_cons, Constraint.rows]
      omega
    | atLeast rows =>
      obtain ⟨bottom, below, all⟩ := ih 0 (y + (spare + rows))
      refine ⟨bottom, stacked_cons.mpr ⟨rfl, below⟩, fun _ => ?_⟩
      rw [all (.inl rfl), asked_cons, Constraint.rows]
      omega

theorem divides_divide : Divides divide := by
  intro whole cs room
  have answers := answers_divideFrom whole (whole.height - asked cs) whole.y cs
  obtain ⟨bottom, stacked, all⟩ :=
    exists_stacked_divideFrom whole (whole.height - asked cs) whole.y cs
  by_cases some : divideFrom whole (whole.height - asked cs) whole.y cs = []
  · rw [some] at answers
    rw [divide, some]
    exact ⟨answers, nofun, .nil, fun _ => nofun⟩
  · obtain ⟨first, next, last⟩ := (stacked_iff some).mp stacked
    refine ⟨answers, first, next, fun grows part hp => ?_⟩
    rw [last part hp, all (.inr grows), Nat.sub_add_cancel room]
    rfl

/-! ### What is asked for and what is drawn -/

theorem length_constraints (error : Option String) (seeded : Bool) :
    (constraints error.isSome seeded).length = (panels error seeded).length := by
  cases error <;> cases seeded <;> rfl

/-- One panel can do with any number of rows. -/
theorem countP_constraints (error description : Bool) :
    (constraints error description).countP Constraint.grows = 1 := by
  cases error <;> cases description <;> rfl

/-- Handed out in turn, each area comes to the panel that it was asked for. -/
theorem handOut_divide (error : Option String) (seeded : Bool) (width height : Nat) :
    handOut (divide ⟨0, 0, width, height⟩ (constraints error.isSome seeded)) (panels error seeded)
      = layout (panels error seeded) width height := by
  cases error <;> cases seeded <;> rfl

/-! ### Panels in their areas -/

/-- The rows that a screen needs: fourteen, three more to tell of a failure, and eight more for the
description form. -/
def rowsNeeded (a : App σ) : Nat :=
  14 + (match a.request with | .failed _ => 3 | _ => 0) + if a.description.seeded then 8 else 0

theorem asked_appConstraints (a : App σ) : asked (appConstraints a) = rowsNeeded a := by
  unfold appConstraints rowsNeeded
  cases a.request <;> cases a.description.seeded <;> rfl

theorem fixedHeight_appPanels (a : App σ) : fixedHeight (appPanels a) = rowsNeeded a := by
  unfold appPanels rowsNeeded
  cases a.request <;> cases a.description.seeded <;> rfl

section Laid

variable {error : Option String} {seeded : Bool} {width height : Nat} {panel : Panel} {area : Area}

/-- The header has a row, and the other panels lie below it. -/
theorem ne_empty_of_mem_layout (drawn : (panel, area) ∈ layout (panels error seeded) width height) :
    area ≠ .empty := by
  rcases List.mem_cons.mp drawn with header | lower
  · obtain ⟨rfl, rfl⟩ := Prod.mk.inj header
    exact nofun
  · obtain ⟨above, below, -, rfl⟩ := stack_split lower
    intro none
    have first : 0 + 1 + stackHeight _ above = 0 := congrArg Area.y none
    omega

theorem getLast?_layout (room : fixedHeight (panels error seeded) ≤ height) :
    (layout (panels error seeded) width height).getLast?
      = some (.status, ⟨0, height - 3, width, 3⟩) := by
  let spare := height - fixedHeight (panels error seeded)
  obtain ⟨above, whole⟩ : ∃ above, panels error seeded = above ++ [Panel.status] :=
    ⟨_, (List.append_assoc _ [Panel.drawings] [Panel.status]).symm⟩
  have place : 0 + stackHeight spare above = height - 3 := by
    have rows : stackHeight spare above + stackHeight spare [.status]
        = fixedHeight (panels error seeded) + spare := by
      rw [← stackHeight_append, ← whole, stackHeight_panels]
    have status : stackHeight spare [.status] = 3 := rfl
    omega
  calc (layout (panels error seeded) width height).getLast?
    _ = (stack width spare 0 (above ++ [.status])).getLast? := by rw [← whole]; rfl
    _ = some (.status, ⟨0, 0 + stackHeight spare above, width, 3⟩) := by
        rw [stack_append]
        exact List.getLast?_concat
    _ = some (.status, ⟨0, height - 3, width, 3⟩) := by rw [place]

end Laid

/-- A rule that divides gives each panel the area that it is laid out in. -/
theorem handedOut_eq_layout {split : Divider} (divides : Divides split) (a : App σ)
    {width height : Nat} (room : rowsNeeded a ≤ height) :
    handedOut split a width height = layout (appPanels a) width height := by
  rw [← asked_appConstraints] at room
  have same : split ⟨0, 0, width, height⟩ (appConstraints a)
      = divide ⟨0, 0, width, height⟩ (appConstraints a) :=
    divides.eq_divide room (countP_constraints _ _)
  rw [handedOut, same]
  exact handOut_divide _ _ width height

/-- **Each panel has its own area.** Take any state of the client, any rule that divides, and a screen
with the rows that the state needs. The areas of the rule and the panels that are drawn in them go
together one for one. The areas lie on one another from the first row of the screen to the last, and
each row belongs to one panel alone. Each panel has the columns of the screen and the height that is
its own, the drawings all the rows that the others leave; none is given the empty area. The status
has the last three rows. And what is drawn by such a rule is what `render` draws. -/
theorem own_areas {split : Divider} (divides : Divides split) (a : App σ) (width height : Nat)
    (room : rowsNeeded a ≤ height) :
    let areas := split ⟨0, 0, width, height⟩ (appConstraints a)
    let drawn := handedOut split a width height
    drawn.map Prod.fst = appPanels a ∧ drawn.map Prod.snd = areas ∧
    Stacked 0 areas height ∧
    (∀ y < height, ∃! p, p ∈ drawn ∧ p.2.y ≤ y ∧ y < p.2.bottom) ∧
    (∀ panel area, (panel, area) ∈ drawn → area.x = 0 ∧ area.width = width ∧
      area.height = panel.height?.getD (height - rowsNeeded a) ∧ area ≠ .empty) ∧
    drawn.getLast? = some (.status, ⟨0, height - 3, width, 3⟩) ∧
    renderBy split a width height = render a width height := by
  intro areas drawn
  have divided : Divided ⟨0, 0, width, height⟩ (appConstraints a) areas :=
    divides _ _ (by rwa [asked_appConstraints])
  have one_for_one : drawn.map Prod.snd = areas :=
    map_snd_handOut (divided.answers.length_eq.symm.trans (length_constraints _ _))
  have stacked : Stacked 0 areas height := by
    have grows : ∃ c ∈ appConstraints a, c.grows = true :=
      List.countP_pos_iff.mp ((countP_constraints _ _).symm ▸ Nat.one_pos)
    have whole := divided.stacked grows
    rwa [Area.bottom, Nat.zero_add] at whole
  have laid : drawn = layout (appPanels a) width height := handedOut_eq_layout divides a room
  refine ⟨map_fst_handOut _ _, one_for_one, stacked, ?row, ?area, ?status, ?screen⟩
  case row =>
    intro y inside
    rw [← one_for_one] at stacked
    exact stacked.existsUnique_row (Nat.zero_le y) inside
  case area =>
    intro panel area here
    rw [laid] at here
    obtain ⟨above, below, -, place⟩ := stack_split here
    rw [place, ← fixedHeight_appPanels]
    exact ⟨rfl, rfl, rfl, place ▸ ne_empty_of_mem_layout here⟩
  case status =>
    rw [laid]
    exact getLast?_layout ((fixedHeight_appPanels a).symm ▸ room)
  case screen => exact congrArg (compose a · width height) laid

/-- A client that has to tell of a failure while the description form is open. -/
def troubled : App Unit :=
  {App.new () with description := .ofText "V", slot := ⟨.failed "bad formula", 2⟩}

/-- The smallest screen that has room for all of this leaves no row for the drawings, and yet they
have their place. -/
theorem own_areas_troubled :
    Divides divide ∧ rowsNeeded troubled ≤ 25 ∧
      (∃ area, (.drawings, area) ∈ handedOut divide troubled 80 25 ∧ area.height = 0 ∧
        area ≠ .empty) ∧
      (handedOut divide troubled 80 25).getLast? = some (.status, ⟨0, 22, 80, 3⟩) ∧
      renderBy divide troubled 80 25 = render troubled 80 25 := by
  have room : rowsNeeded troubled ≤ 25 := by decide
  obtain ⟨panels, -, -, -, areas, status, screen⟩ := own_areas divides_divide troubled 80 25 room
  have drawn : Panel.drawings ∈ (handedOut divide troubled 80 25).map Prod.fst := by
    rw [panels]
    decide
  obtain ⟨⟨_, area⟩, here, rfl⟩ := List.mem_map.mp drawn
  obtain ⟨-, -, height, some⟩ := areas _ area here
  exact ⟨divides_divide, room, ⟨area, here, height, some⟩, status, screen⟩

end ProblemVisualizer.Screen
