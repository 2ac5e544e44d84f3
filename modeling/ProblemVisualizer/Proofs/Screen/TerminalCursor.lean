import ProblemVisualizer.Proofs.Screen.CursorPlace
import ProblemVisualizer.Proofs.Screen.Stacking

/-! When the cursor shows.

The cursor is to show if its row lies inside the box of its field. But coordinates
go round at `coordinateBound`, and the row is made one of them before it is compared
with the box. `terminal_cursor` says what comes of that: as long as a coordinate can
count the row, the cursor shows just where it should. Behind more rows than that it
shows in rows where it does not stand, `cursor_over_first_row`. -/
namespace ProblemVisualizer.Screen

open Form (Field ProblemForm)
open Text (charWidth)

variable {σ : Type} {a : App σ} {width height : Nat} {area : Area}

/-! ### Columns -/

/-- The cursor stands in a column of the field or right behind the last one. -/
theorem FieldRows.column_cursor_le (value : String) (cursor width : Nat) :
    (ofText value cursor width).cursor.column ≤ max width 1 := by
  cases inside : value.toList[cursor]? with
  | none =>
    have behind : value.length ≤ cursor := by
      rw [← String.length_toList]
      exact List.getElem?_eq_none_iff.mp inside
    exact ((ends_cursor width behind).column_lt (Nat.le_max_right ..)).le
  | some c => exact (column_cursor width inside).1

/-- Columns do not go round. -/
theorem column_mod (drawn : a.Draws width height (.field a.focus) area)
    (wide : width < coordinateBound) :
    (area.x + 1 + (fieldRows a a.focus area).cursor.column) % coordinateBound
      = area.inner.x + (fieldRows a a.focus area).cursor.column := by
  obtain ⟨left, whole, -⟩ := area_of_draws_field drawn
  have column : (fieldRows a a.focus area).cursor.column ≤ max (area.width - 2) 1 :=
    FieldRows.column_cursor_le _ _ _
  simp only [Area.inner]
  unfold coordinateBound at wide ⊢
  omega

/-! ### Rows -/

theorem isActive_focus (mode : a.mode = .normal) : isActive a a.focus = true := by
  simp [isActive, mode]

/-- What is drawn for the cursor: its row is taken modulo the bound, and compared then. -/
theorem fieldCursor?_eq (drawn : a.Draws width height (.field a.focus) area)
    (wide : width < coordinateBound) (mode : a.mode = .normal) :
    let spot := (fieldRows a a.focus area).cursor
    let y := (area.inner.y + spot.row) % coordinateBound
    fieldCursor? a a.focus area
      = if y < area.inner.bottom then some (area.inner.x + spot.column, y) else none := by
  obtain ⟨-, -, tall⟩ := area_of_draws_field drawn
  intro spot y
  have inside : area.inner.bottom = area.y + (area.height - 1) := by
    simp only [Area.inner, Area.bottom]
    omega
  unfold fieldCursor?
  dsimp only
  rw [if_pos (isActive_focus mode), column_mod drawn wide, inside]
  rfl

/-- A row that a coordinate can count is inside the box if it is one of the box's rows. -/
theorem fieldCursor?_of_lt (drawn : a.Draws width height (.field a.focus) area)
    (wide : width < coordinateBound) (mode : a.mode = .normal) :
    let spot := (fieldRows a a.focus area).cursor
    area.inner.y + spot.row < coordinateBound → fieldCursor? a a.focus area
      = if spot.row < area.inner.height
        then some (area.inner.x + spot.column, area.inner.y + spot.row) else none := by
  intro spot counted
  have shown := fieldCursor?_eq drawn wide mode
  dsimp only at shown
  rw [shown, Nat.mod_eq_of_lt counted, Area.bottom]
  simp only [Nat.add_lt_add_iff_left]
  rfl

/-- The help hides the cursor. -/
theorem cursor_eq_none_of_help (help : a.mode = .help) : (render a width height).cursor = none := by
  refine Option.eq_none_iff_forall_ne_some.mpr fun spot shown => ?_
  obtain ⟨area, -, placed⟩ := App.exists_of_cursor shown
  simp [fieldCursor?, isActive, help] at placed

/-- **When the cursor shows.** Take any state with the focus on a field that can be visited, any text
and any screen with the rows for the panels. While the help is open there is no cursor. Else the box
of the field with the focus lies on the screen, and the cursor is drawn if the row of the screen it
is to be on, taken modulo the bound on coordinates, is above the lower border of the box. If that row
is below the bound at all, this means: the cursor shows if its row in the field is one of the rows
inside the box, and then in that row and column, counted from the corner inside the border. -/
theorem terminal_cursor (visited : a.focus ∈ a.tabOrder) (roomy : Roomy a height)
    (wide : width < coordinateBound) :
    (a.mode = .help → (render a width height).cursor = none) ∧
    (a.mode = .normal → (∃ area, a.Draws width height (.field a.focus) area) ∧
      ∀ area, a.Draws width height (.field a.focus) area → area.bottom ≤ height ∧
        let spot := (fieldRows a a.focus area).cursor
        let y := (area.inner.y + spot.row) % coordinateBound
        (render a width height).cursor
          = (if y < area.inner.bottom then some (area.inner.x + spot.column, y) else none) ∧
        (area.inner.y + spot.row < coordinateBound → (render a width height).cursor
          = if spot.row < area.inner.height
            then some (area.inner.x + spot.column, area.inner.y + spot.row) else none)) := by
  refine ⟨cursor_eq_none_of_help, fun mode => ⟨exists_draws_focus visited _ _, fun area drawn => ?_⟩⟩
  rw [cursor_render drawn]
  exact ⟨bottom_le_of_draws drawn roomy, fieldCursor?_eq drawn wide mode,
    fieldCursor?_of_lt drawn wide mode⟩

/-! ### More rows than coordinates -/

/-- In a field of one column each character of a column has a row of its own. -/
theorem Spot.cursor_one_column {cs : List Char} (single : ∀ c ∈ cs, charWidth c = 1) {s : Spot}
    (full : s.column = 1) : s.cursor 1 cs cs.length = ⟨0, s.row + cs.length + 1⟩ := by
  induction cs generalizing s with
  | nil => simp [cursor, atEnd, full]
  | cons c rest ih =>
    have next : s.advance 1 c = ⟨1, s.row + 1⟩ := by
      simp [advance, enter, full, single c List.mem_cons_self]
    rw [List.length_cons, cursor, next, ih (fun d hd => single d (List.mem_cons_of_mem c hd)) rfl]
    simp only [Spot.mk.injEq, true_and]
    omega

theorem FieldRows.cursor_one_column {value : String} (single : ∀ c ∈ value.toList, charWidth c = 1)
    (some : value.toList ≠ []) : (ofText value value.length 1).cursor = ⟨0, value.length⟩ := by
  obtain ⟨c, rest, text⟩ := List.exists_cons_of_ne_nil some
  rw [text] at single
  have first : Spot.origin.advance 1 c = ⟨1, 0⟩ := by
    simp [Spot.advance, Spot.enter, Spot.origin, single c List.mem_cons_self]
  have further := Spot.cursor_one_column (fun d hd => single d (List.mem_cons_of_mem c hd))
    (s := ⟨1, 0⟩) rfl
  rw [ofText, ← String.length_toList, text, List.length_cons, Nat.max_self]
  dsimp only
  rw [Spot.cursor, first, further, Nat.zero_add]

/-- A client with a text and a cursor in the first field. -/
def asking (value : String) (cursor : Nat) : App Unit :=
  {App.new () with problem := ⟨⟨value, cursor⟩, .empty⟩}

section Asking

variable (value : String) (cursor : Nat)

theorem focus_asking : (asking value cursor).focus ∈ (asking value cursor).tabOrder :=
  List.mem_cons_self

theorem roomy_asking : Roomy (asking value cursor) 14 := by
  show fixedHeight (panels none false) ≤ 14
  decide

theorem draws_asking (width : Nat) :
    (asking value cursor).Draws width 14 (.field .problem) ⟨0, 1, width, 6⟩ :=
  List.mem_cons_of_mem _ List.mem_cons_self

theorem fieldRows_asking (area : Area) : fieldRows (asking value cursor) .problem area
    = .ofText value cursor (area.width - 2) := rfl

end Asking

/-- As many letters as there are coordinates. -/
def letters : String := String.ofList (List.replicate coordinateBound 'a')

theorem cursor_letters :
    (FieldRows.ofText letters letters.length 1).cursor = ⟨0, coordinateBound⟩ := by
  have text : letters.toList = List.replicate coordinateBound 'a' := String.toList_ofList
  have length : letters.length = coordinateBound := by
    rw [← String.length_toList, text, List.length_replicate]
  have single : ∀ c ∈ letters.toList, charWidth c = 1 := by
    intro c hc
    rw [text] at hc
    obtain rfl := List.eq_of_mem_replicate hc
    decide
  have some : letters.toList ≠ [] := by
    rw [text]
    exact List.cons_ne_nil _ _
  rw [FieldRows.cursor_one_column single some, length]

/-- The cursor behind a text of too many rows is drawn on the first row of the box. -/
theorem cursor_over_first_row : ¬ ∀ (a : App Unit) (width height : Nat) (area : Area),
    a.focus ∈ a.tabOrder → Roomy a height → width < coordinateBound → height < coordinateBound →
    a.mode = .normal → a.Draws width height (.field a.focus) area →
    (render a width height).cursor = if (fieldRows a a.focus area).cursor.row < area.inner.height
      then some (area.inner.x + (fieldRows a a.focus area).cursor.column,
        area.inner.y + (fieldRows a a.focus area).cursor.row)
      else none := by
  intro shows
  let a := asking letters letters.length
  have drawn : a.Draws 3 14 (.field a.focus) ⟨0, 1, 3, 6⟩ := draws_asking letters _ 3
  have rows : (fieldRows a a.focus ⟨0, 1, 3, 6⟩).cursor = ⟨0, coordinateBound⟩ :=
    (congrArg FieldRows.cursor (fieldRows_asking letters _ _)).trans cursor_letters
  have hidden := shows a 3 14 ⟨0, 1, 3, 6⟩ (focus_asking letters _) (roomy_asking letters _)
    (by decide) (by decide) rfl drawn
  rw [cursor_render drawn, fieldCursor?_eq drawn (by decide) rfl, rows] at hidden
  exact absurd hidden (by decide)

/-- Behind a text of three rows it shows on the fourth. -/
theorem terminal_cursor_fourth_row :
    Field.problem ∈ (asking "abc" 3).tabOrder ∧ Roomy (asking "abc" 3) 14 ∧ 3 < coordinateBound ∧
      (asking "abc" 3).Draws 3 14 (.field .problem) ⟨0, 1, 3, 6⟩ ∧
      (fieldRows (asking "abc" 3) .problem ⟨0, 1, 3, 6⟩).cursor = ⟨0, 3⟩ ∧
      (render (asking "abc" 3) 3 14).cursor = some (1, 5) := by
  have visited := focus_asking "abc" 3
  have roomy := roomy_asking "abc" 3
  have wide : 3 < coordinateBound := by decide
  have drawn := draws_asking "abc" 3 3
  have rows : (fieldRows (asking "abc" 3) (asking "abc" 3).focus ⟨0, 1, 3, 6⟩).cursor = ⟨0, 3⟩ := by
    decide
  obtain ⟨-, -, shown⟩ := ((terminal_cursor visited roomy wide).2 rfl).2 _ drawn
  rw [rows] at shown
  exact ⟨visited, roomy, wide, drawn, rows, shown (by decide)⟩

end ProblemVisualizer.Screen
