import ProblemVisualizer.Proofs.App.Opening

/-! Where the panels lie.

Panels follow one another from the top of the screen without a gap: each starts
where the ones above it end (`stack_split`). When the screen has the rows for those
of a fixed height, all of them lie on it, and the cursor of a field can be seen if
it is the field's own that does. -/
namespace ProblemVisualizer.Screen

open Form (Field)

variable {σ : Type} {width spare y : Nat} {ps : List Panel} {panel : Panel} {area : Area}

/-! ### Panels on one another -/

/-- The rows that panels take together. -/
def stackHeight (spare : Nat) (ps : List Panel) : Nat :=
  ps.foldr (fun p n => p.height?.getD spare + n) 0

theorem stackHeight_cons (spare : Nat) (p : Panel) (ps : List Panel) :
    stackHeight spare (p :: ps) = p.height?.getD spare + stackHeight spare ps := rfl

theorem stackHeight_append (spare : Nat) (ps qs : List Panel) :
    stackHeight spare (ps ++ qs) = stackHeight spare ps + stackHeight spare qs := by
  induction ps with
  | nil => exact (Nat.zero_add _).symm
  | cons p rest ih => rw [List.cons_append, stackHeight_cons, stackHeight_cons, ih, Nat.add_assoc]

theorem stack_append (width spare y : Nat) (ps qs : List Panel) :
    stack width spare y (ps ++ qs)
      = stack width spare y ps ++ stack width spare (y + stackHeight spare ps) qs := by
  induction ps generalizing y with
  | nil => rfl
  | cons p rest ih =>
    rw [List.cons_append, stack, stack, ih, stackHeight_cons, Nat.add_assoc, List.cons_append]

/-- A panel in a stack, with those above it and those below. -/
structure Splits (width spare y : Nat) (ps : List Panel) (panel : Panel) (area : Area)
    (above below : List Panel) : Prop where
  panels : ps = above ++ panel :: below
  area_eq : area = ⟨0, y + stackHeight spare above, width, panel.height?.getD spare⟩

theorem stack_split (h : (panel, area) ∈ stack width spare y ps) :
    ∃ above below, Splits width spare y ps panel area above below := by
  induction ps generalizing y with
  | nil => cases h
  | cons p rest ih =>
    rcases List.mem_cons.mp h with here | further
    · obtain ⟨rfl, rfl⟩ := Prod.mk.inj here
      exact ⟨[], rest, rfl, rfl⟩
    · obtain ⟨above, below, rfl, rfl⟩ := ih further
      refine ⟨p :: above, below, rfl, ?_⟩
      rw [stackHeight_cons, Nat.add_assoc]

namespace Splits

variable {above below : List Panel}

theorem stack_eq (h : Splits width spare y ps panel area above below) :
    stack width spare y ps
      = stack width spare y above ++ (panel, area) :: stack width spare area.bottom below := by
  obtain ⟨rfl, rfl⟩ := h
  rw [stack_append]
  rfl

theorem bottom_le (h : Splits width spare y ps panel area above below) :
    area.bottom ≤ y + stackHeight spare ps := by
  obtain ⟨rfl, rfl⟩ := h
  rw [stackHeight_append, stackHeight_cons]
  simp only [Area.bottom]
  omega

end Splits

/-! ### On the screen -/

/-- The drawings take what is left over, and the other panels what they always take. -/
theorem stackHeight_panels (spare : Nat) (error : Option String) (seeded : Bool) :
    stackHeight spare (panels error seeded) = fixedHeight (panels error seeded) + spare := by
  cases error <;> cases seeded <;> simp [stackHeight, fixedHeight, panels, Panel.height?] <;> omega

theorem nodup_panels (error : Option String) (seeded : Bool) : (panels error seeded).Nodup := by
  cases error <;> cases seeded <;> simp [panels]

/-- The screen has the rows for the panels that have a height of their own. -/
def Roomy (a : App σ) (height : Nat) : Prop := fixedHeight (appPanels a) ≤ height

section Drawn

variable {a : App σ} {height : Nat}

/-- The field with the focus is on the screen if Tab can reach it. -/
theorem exists_draws_focus (visited : a.focus ∈ a.tabOrder) (width height : Nat) :
    ∃ area, a.Draws width height (.field a.focus) area :=
  (App.exists_draws_iff a width height _).mpr ((App.field_mem_appPanels a a.focus).mpr visited)

theorem bottom_le_of_draws (drawn : a.Draws width height panel area) (roomy : Roomy a height) :
    area.bottom ≤ height := by
  obtain ⟨above, below, splits⟩ := stack_split drawn
  have bottom := splits.bottom_le
  have whole (spare : Nat) : stackHeight spare (appPanels a) = fixedHeight (appPanels a) + spare :=
    stackHeight_panels spare _ _
  rw [whole] at bottom
  unfold Roomy at roomy
  omega

/-- The box of a field is as wide as the screen, and has a row inside its border. -/
theorem area_of_draws_field {field : Field} (drawn : a.Draws width height (.field field) area) :
    area.x = 0 ∧ area.width = width ∧ 3 ≤ area.height := by
  obtain ⟨above, below, -, rfl⟩ := stack_split drawn
  refine ⟨rfl, rfl, ?_⟩
  cases field <;> simp [Panel.height?]

end Drawn

/-! ### The cursor -/

section Cursor

variable {a : App σ} {height : Nat}

/-- No panel has a cursor but that of the field with the focus. -/
theorem panelCursor?_eq_none (other : panel ≠ .field a.focus) :
    panelCursor? a (panel, area) = none := by
  cases panel with
  | field field =>
    have idle : isActive a field = false := by
      have focus : a.focus ≠ field := fun same => other (same ▸ rfl)
      simp [isActive, focus]
    simp [panelCursor?, fieldCursor?, idle]
  | _ => rfl

theorem findSome?_stack_eq_none (elsewhere : .field a.focus ∉ ps) :
    (stack width spare y ps).findSome? (panelCursor? a) = none := by
  refine List.findSome?_eq_none_iff.mpr fun ⟨panel, area⟩ hp => panelCursor?_eq_none ?_
  rintro rfl
  have placed := List.mem_map_of_mem (f := Prod.fst) hp
  rw [map_fst_stack] at placed
  exact elsewhere placed

/-- The screen's cursor is that of the field with the focus. -/
theorem cursor_render (drawn : a.Draws width height (.field a.focus) area) :
    (render a width height).cursor = fieldCursor? a a.focus area := by
  obtain ⟨above, below, splits⟩ := stack_split drawn
  -- The panel is there once, and no other one has a cursor.
  have once := nodup_panels a.request.error? a.description.seeded
  have whole : appPanels a = above ++ .field a.focus :: below := splits.panels
  rw [← appPanels, whole, List.nodup_append] at once
  have notAbove : .field a.focus ∉ above := fun ha => once.2.2 _ ha _ List.mem_cons_self rfl
  have notBelow : .field a.focus ∉ below := (List.nodup_cons.mp once.2.1).1
  show (layout (appPanels a) width height).findSome? (panelCursor? a)
    = panelCursor? a (.field a.focus, area)
  rw [layout, splits.stack_eq, List.findSome?_append, findSome?_stack_eq_none notAbove,
    Option.none_or, List.findSome?_cons, findSome?_stack_eq_none notBelow]
  split <;> simp [*]

end Cursor

end ProblemVisualizer.Screen
