import ProblemVisualizer.Screen.View

/-! What is painted where.

Whatever is drawn stays in its rows: a line in its own, a block or a paragraph in
those of its area, and so panels that lie under one another do not touch each other
(`repaints_stack`); the screen keeps its size. Of what is drawn last in a place,
something can be said: a line shows each of its glyphs behind the columns of those
before it, and a paragraph shows each of its rows that there is room for. -/
namespace ProblemVisualizer.Screen

variable {σ : Type} {canvas : Canvas} {top bottom : Nat}

/-! ### What stays as it is -/

/-- The second canvas has the cells of the first one, and they differ in these rows at most. -/
structure Repaints (top bottom : Nat) (c d : Canvas) : Prop where
  places : ∀ x y, (d.get? x y).isSome = (c.get? x y).isSome
  outside : ∀ x y, y < top ∨ bottom ≤ y → d.get? x y = c.get? x y

namespace Repaints

variable {c d e : Canvas}

theorem refl (top bottom : Nat) (c : Canvas) : Repaints top bottom c c :=
  ⟨fun _ _ => rfl, fun _ _ _ => rfl⟩

theorem trans (h : Repaints top bottom c d) (h' : Repaints top bottom d e) :
    Repaints top bottom c e :=
  ⟨fun x y => (h'.places x y).trans (h.places x y),
    fun x y apart => (h'.outside x y apart).trans (h.outside x y apart)⟩

theorem mono {upper lower : Nat} (h : Repaints top bottom c d) (above : upper ≤ top)
    (below : bottom ≤ lower) : Repaints upper lower c d :=
  ⟨h.places, fun x y apart => h.outside x y (by omega)⟩

end Repaints

theorem repaints_map (canvas : Canvas) {rule : Nat → Nat → Cell → Cell}
    (idle : ∀ x y cell, y < top ∨ bottom ≤ y → rule x y cell = cell) :
    Repaints top bottom canvas (canvas.map rule) where
  places x y := by rw [Canvas.get?_map, Option.isSome_map]
  outside x y apart := by
    rw [Canvas.get?_map]
    cases canvas.get? x y with
    | none => rfl
    | some cell => rw [Option.map_some, idle x y cell apart]

theorem repaints_modify (canvas : Canvas) (x y : Nat) (rule : Cell → Cell) :
    Repaints y (y + 1) canvas (canvas.modify x y rule) where
  places x' y' := by
    rw [Canvas.get?_modify]
    split
    · exact Option.isSome_map
    · rfl
  outside x' y' apart := by rw [Canvas.get?_modify, if_neg (by omega)]

theorem repaints_line (l : Line) (canvas : Canvas) (x y : Nat) :
    Repaints y (y + 1) canvas (l.draw canvas x y) := by
  induction l generalizing canvas x with
  | nil => exact .refl _ _ _
  | cons g rest ih =>
    unfold Line.draw
    split
    · exact ih canvas x
    · exact (repaints_modify canvas x y _).trans (ih _ _)

section Areas

variable {area : Area}

theorem not_contains {y : Nat} (apart : y < area.y ∨ area.bottom ≤ y) (x : Nat) :
    area.contains x y = false := by
  simp only [Area.contains, Bool.and_eq_false_iff, decide_eq_false_iff_not]
  omega

theorem repaints_restyle (canvas : Canvas) (area : Area) (s : Style) :
    Repaints area.y area.bottom canvas (canvas.restyle area s) :=
  repaints_map canvas fun x y cell apart => by rw [not_contains apart, if_neg Bool.false_ne_true]

theorem repaints_block (b : Block) (area : Area) (canvas : Canvas) :
    Repaints area.y area.bottom canvas (b.draw area canvas) := by
  have edge (text : String) (style : Style) {y : Nat} (inside : area.y ≤ y ∧ y < area.bottom)
      (canvas : Canvas) : Repaints area.y area.bottom canvas
        (Block.drawEdgeText text style area y canvas) :=
    (repaints_line _ canvas _ y).mono inside.1 inside.2
  unfold Block.draw
  split
  · exact .refl _ _ _
  rename_i some
  have tall : 0 < area.height := by omega
  have border : Repaints area.y area.bottom canvas (b.drawBorder area canvas) :=
    repaints_map canvas fun x y cell apart => by rw [not_contains apart, if_neg Bool.false_ne_true]
  have title := border.trans (edge b.title {} ⟨Nat.le_refl _, by unfold Area.bottom; omega⟩ _)
  dsimp only
  split
  · exact title.trans (edge _ _ (by unfold Area.bottom; omega) _)
  · exact title

theorem repaints_drawRows (p : Paragraph) (area : Area) (canvas : Canvas) (n : Nat) (rows : List Line) :
    Repaints (area.y + n) area.bottom canvas (p.drawRows area canvas n rows) := by
  induction rows generalizing canvas n with
  | nil => exact .refl _ _ _
  | cons row rest ih =>
    unfold Paragraph.drawRows
    split
    · rename_i inside
      have line := repaints_line row canvas (area.x + p.indent area.width row) (area.y + n)
      exact (line.mono (Nat.le_refl _) (by unfold Area.bottom; omega)).trans
        ((ih _ _).mono (by omega) (Nat.le_refl _))
    · exact .refl _ _ _

theorem inner_rows (p : Paragraph) (area : Area) (some : (p.inner area).height ≠ 0) :
    area.y ≤ (p.inner area).y ∧ (p.inner area).bottom ≤ area.bottom := by
  unfold Paragraph.inner at some ⊢
  split at some
  · simp only [Area.inner, Area.bottom] at some ⊢
    omega
  · exact ⟨Nat.le_refl _, Nat.le_refl _⟩

/-- What the rows of a paragraph are drawn on. -/
def Paragraph.ground (p : Paragraph) (area : Area) (canvas : Canvas) : Canvas :=
  let canvas := canvas.restyle area p.style
  match p.block with
  | some block => block.draw area canvas
  | none => canvas

theorem Paragraph.draw_eq (p : Paragraph) (area : Area) (canvas : Canvas) : p.draw area canvas
    = if (p.inner area).width = 0 ∨ (p.inner area).height = 0 then p.ground area canvas
      else p.drawRows (p.inner area) ((p.ground area canvas).restyle (p.inner area) p.style) 0
        (p.rows (p.inner area).width) := rfl

theorem repaints_ground (p : Paragraph) (area : Area) (canvas : Canvas) :
    Repaints area.y area.bottom canvas (p.ground area canvas) := by
  unfold Paragraph.ground
  split
  · exact (repaints_restyle canvas area _).trans (repaints_block _ area _)
  · exact repaints_restyle canvas area _

/-- The ground, with the inner area in the look of the text. -/
theorem repaints_restyle_ground (p : Paragraph) (area : Area) (canvas : Canvas)
    (some : (p.inner area).height ≠ 0) : Repaints area.y area.bottom canvas
      ((p.ground area canvas).restyle (p.inner area) p.style) := by
  obtain ⟨above, below⟩ := inner_rows p area some
  exact (repaints_ground p area canvas).trans ((repaints_restyle _ _ _).mono above below)

theorem repaints_paragraph (p : Paragraph) (area : Area) (canvas : Canvas) :
    Repaints area.y area.bottom canvas (p.draw area canvas) := by
  rw [Paragraph.draw_eq]
  split
  · exact repaints_ground p area canvas
  · rename_i some
    have tall := (not_or.mp some).2
    obtain ⟨above, below⟩ := inner_rows p area tall
    exact (repaints_restyle_ground p area canvas tall).trans
      ((repaints_drawRows p _ _ 0 _).mono above below)

theorem repaints_drawings (state : Session.RequestState) (area : Area) (canvas : Canvas) :
    Repaints area.y area.bottom canvas (drawDrawings state area canvas) := by
  unfold drawDrawings
  split
  · split
    · exact (repaints_paragraph _ area.halves.1 _).trans (repaints_paragraph _ area.halves.2 _)
    · exact repaints_paragraph _ area _
  · exact repaints_paragraph _ area _
  · exact .refl _ _ _
  · exact .refl _ _ _

/-- A panel keeps to the rows of its area. -/
theorem repaints_panel (a : App σ) (panel : Panel) (area : Area) (canvas : Canvas) :
    Repaints area.y area.bottom canvas (drawPanel a panel area canvas) := by
  cases panel with
  | drawings => exact repaints_drawings _ area canvas
  | _ => exact repaints_paragraph _ area canvas

end Areas

/-- Draws panels, each in its area. -/
def paint (a : App σ) (areas : List (Panel × Area)) (canvas : Canvas) : Canvas :=
  areas.foldl (fun canvas (panel, area) => drawPanel a panel area canvas) canvas

theorem paint_append (a : App σ) (before after : List (Panel × Area)) (canvas : Canvas) :
    paint a (before ++ after) canvas = paint a after (paint a before canvas) :=
  List.foldl_append

theorem paint_cons (a : App σ) (panel : Panel) (area : Area) (after : List (Panel × Area))
    (canvas : Canvas) :
    paint a ((panel, area) :: after) canvas = paint a after (drawPanel a panel area canvas) := rfl

/-- Panels on one another do not touch the rows above them. -/
theorem repaints_stack (a : App σ) (width spare y : Nat) (ps : List Panel) (canvas : Canvas) :
    ∃ bottom, Repaints y bottom canvas (paint a (stack width spare y ps) canvas) := by
  induction ps generalizing y canvas with
  | nil => exact ⟨0, .refl _ _ _⟩
  | cons p rest ih =>
    obtain ⟨lower, further⟩ := ih (y + p.height?.getD spare)
      (drawPanel a p ⟨0, y, width, p.height?.getD spare⟩ canvas)
    have panel := repaints_panel a p ⟨0, y, width, p.height?.getD spare⟩ canvas
    refine ⟨max (y + p.height?.getD spare) lower, ?_⟩
    rw [stack, paint_cons]
    exact (panel.mono (Nat.le_refl _) (Nat.le_max_left ..)).trans
      (further.mono (Nat.le_add_right ..) (Nat.le_max_right ..))

/-! ### The size of the screen -/

/-- The two canvases are of one size. -/
structure SameSize (c d : Canvas) : Prop where
  width : d.width = c.width
  height : d.height = c.height

theorem SameSize.trans {c d e : Canvas} (h : SameSize c d) (h' : SameSize d e) : SameSize c e :=
  ⟨h'.width.trans h.width, h'.height.trans h.height⟩

theorem sameSize_map (canvas : Canvas) (rule : Nat → Nat → Cell → Cell) :
    SameSize canvas (canvas.map rule) := ⟨rfl, rfl⟩

theorem sameSize_modify (canvas : Canvas) (x y : Nat) (rule : Cell → Cell) :
    SameSize canvas (canvas.modify x y rule) := by
  unfold Canvas.modify
  split <;> exact ⟨rfl, rfl⟩

theorem sameSize_line (l : Line) (canvas : Canvas) (x y : Nat) :
    SameSize canvas (l.draw canvas x y) := by
  induction l generalizing canvas x with
  | nil => exact ⟨rfl, rfl⟩
  | cons g rest ih =>
    unfold Line.draw
    split
    · exact ih canvas x
    · exact (sameSize_modify canvas x y _).trans (ih _ _)

theorem sameSize_block (b : Block) (area : Area) (canvas : Canvas) :
    SameSize canvas (b.draw area canvas) := by
  unfold Block.draw
  split
  · exact ⟨rfl, rfl⟩
  have title : SameSize canvas (Block.drawEdgeText b.title {} area area.y (b.drawBorder area canvas)) :=
    (sameSize_map canvas _).trans (sameSize_line _ _ _ _)
  dsimp only
  split
  · exact title.trans (sameSize_line _ _ _ _)
  · exact title

theorem sameSize_drawRows (p : Paragraph) (area : Area) (canvas : Canvas) (n : Nat) (rows : List Line) :
    SameSize canvas (p.drawRows area canvas n rows) := by
  induction rows generalizing canvas n with
  | nil => exact ⟨rfl, rfl⟩
  | cons row rest ih =>
    unfold Paragraph.drawRows
    split
    · exact (sameSize_line row canvas _ _).trans (ih _ _)
    · exact ⟨rfl, rfl⟩

theorem sameSize_paragraph (p : Paragraph) (area : Area) (canvas : Canvas) :
    SameSize canvas (p.draw area canvas) := by
  have ground : SameSize canvas (p.ground area canvas) := by
    unfold Paragraph.ground
    split
    · exact (sameSize_map canvas _).trans (sameSize_block _ area _)
    · exact sameSize_map canvas _
  rw [Paragraph.draw_eq]
  split
  · exact ground
  · exact (ground.trans (sameSize_map _ _)).trans (sameSize_drawRows p _ _ 0 _)

theorem sameSize_drawings (state : Session.RequestState) (area : Area) (canvas : Canvas) :
    SameSize canvas (drawDrawings state area canvas) := by
  unfold drawDrawings
  split
  · split
    · exact (sameSize_paragraph _ area.halves.1 _).trans (sameSize_paragraph _ area.halves.2 _)
    · exact sameSize_paragraph _ area _
  · exact sameSize_paragraph _ area _
  · exact ⟨rfl, rfl⟩
  · exact ⟨rfl, rfl⟩

theorem sameSize_paint (a : App σ) (areas : List (Panel × Area)) (canvas : Canvas) :
    SameSize canvas (paint a areas canvas) := by
  induction areas generalizing canvas with
  | nil => exact ⟨rfl, rfl⟩
  | cons first rest ih =>
    obtain ⟨panel, area⟩ := first
    have drawn : SameSize canvas (drawPanel a panel area canvas) := by
      cases panel with
      | drawings => exact sameSize_drawings _ area canvas
      | _ => exact sameSize_paragraph _ area canvas
    rw [paint_cons]
    exact drawn.trans (ih _)

/-! ### What shows -/

theorem isSome_get?_blank {width height x y : Nat} (column : x < width) (row : y < height) :
    ((Canvas.blank width height).get? x y).isSome = true := by
  have inside : y * width + x < width * height := by
    calc y * width + x
      _ < y * width + width := Nat.add_lt_add_left column _
      _ = (y + 1) * width := (Nat.succ_mul y width).symm
      _ ≤ height * width := Nat.mul_le_mul_right width row
      _ = width * height := Nat.mul_comm ..
  simp [Canvas.get?, Canvas.blank, column, inside]

namespace Line

theorem draw_append (l more : Line) (canvas : Canvas) (x y : Nat) :
    Line.draw canvas x y (l ++ more) = Line.draw (l.draw canvas x y) (x + width l) y more := by
  induction l generalizing canvas x with
  | nil => rfl
  | cons g rest ih =>
    have columns : width (g :: rest) = g.width + width rest := rfl
    rw [List.cons_append, draw, draw, columns]
    split
    · rename_i none
      rw [ih, none, Nat.zero_add]
    · rw [ih, Nat.add_assoc]

theorem width_append (l more : Line) : width (l ++ more) = width l + width more := by
  induction l with
  | nil => exact (Nat.zero_add _).symm
  | cons g rest ih =>
    show g.width + width (rest ++ more) = g.width + width rest + width more
    rw [ih, Nat.add_assoc]

theorem width_fitting_le (limit room : Nat) (l : Line) : width (fitting limit room l) ≤ room := by
  induction l generalizing room with
  | nil => exact Nat.zero_le room
  | cons g rest ih =>
    unfold fitting
    split
    · exact ih room
    · split
      · exact Nat.zero_le room
      · rename_i fits
        have further : width (fitting limit (room - g.width) rest) ≤ room - g.width := ih _
        show g.width + width (fitting limit (room - g.width) rest) ≤ room
        omega

/-- A glyph shows where those before it end. -/
theorem symbol_draw {before after : Line} {g : Glyph} (columns : g.width ≠ 0) {x y : Nat}
    (place : (canvas.get? (x + width before) y).isSome = true) :
    ((Line.draw canvas x y (before ++ g :: after)).get? (x + width before) y).map Cell.symbol
      = some (String.ofList g.symbol) := by
  rw [← (repaints_line before canvas x y).places] at place
  obtain ⟨cell, here⟩ := Option.isSome_iff_exists.mp place
  rw [draw_append, draw, if_neg columns, get?_draw_of_ne _ _ _ _ _ _ (.inr (by omega)),
    Canvas.get?_modify, if_pos ⟨rfl, rfl⟩, here]
  rfl

/-- Where everything fits, nothing is cut. -/
theorem fitting_eq_self {limit room : Nat} {l : Line} (narrow : width l ≤ room)
    (within : room ≤ limit) : fitting limit room l = l := by
  induction l generalizing room with
  | nil => rfl
  | cons g rest ih =>
    have columns : g.width + width rest ≤ room := narrow
    rw [fitting, if_neg (by omega), if_neg (by omega), ih (by omega) (by omega)]

theorem cut_eq_self {limit : Nat} {l : Line} (narrow : width l ≤ limit) : l.cut limit = l :=
  fitting_eq_self narrow (Nat.le_refl _)

end Line

/-- A row of a paragraph shows as long as there is room for it. -/
theorem get?_drawRows (p : Paragraph) {area : Area} {above : List Line} (row : Line)
    (below : List Line) {n : Nat} (room : n + above.length < area.height) (canvas : Canvas)
    (x : Nat) : ∃ before, Repaints (area.y + n) area.bottom canvas before ∧
      (p.drawRows area canvas n (above ++ row :: below)).get? x (area.y + (n + above.length))
        = (row.draw before (area.x + p.indent area.width row) (area.y + (n + above.length))).get? x
            (area.y + (n + above.length)) := by
  induction above generalizing canvas n with
  | nil =>
    refine ⟨canvas, .refl _ _ _, ?_⟩
    rw [List.length_nil, Nat.add_zero] at room ⊢
    rw [List.nil_append, Paragraph.drawRows, if_pos room]
    -- The rows that follow are drawn below it.
    exact (repaints_drawRows p area _ (n + 1) below).outside x _ (.inl (by omega))
  | cons first rest ih =>
    have further : n + (rest.length + 1) = n + 1 + rest.length := by omega
    rw [List.length_cons, further] at room ⊢
    rw [List.cons_append, Paragraph.drawRows, if_pos (by omega)]
    obtain ⟨before, drawn, shown⟩ := ih room
      (first.draw canvas (area.x + p.indent area.width first) (area.y + n))
    have line := repaints_line first canvas (area.x + p.indent area.width first) (area.y + n)
    exact ⟨before, (line.mono (Nat.le_refl _) (by unfold Area.bottom; omega)).trans
      (drawn.mono (by omega) (Nat.le_refl _)), shown⟩

/-- A row of a paragraph shows inside its block. -/
theorem get?_paragraph (p : Paragraph) (area : Area) {above below : List Line} {row : Line}
    (rows : p.rows (p.inner area).width = above ++ row :: below) (wide : (p.inner area).width ≠ 0)
    (room : above.length < (p.inner area).height) (canvas : Canvas) (x : Nat) :
    ∃ before, Repaints area.y area.bottom canvas before ∧
      (p.draw area canvas).get? x ((p.inner area).y + above.length)
        = (row.draw before ((p.inner area).x + p.indent (p.inner area).width row)
            ((p.inner area).y + above.length)).get? x ((p.inner area).y + above.length) := by
  have tall : (p.inner area).height ≠ 0 := by omega
  have inside : 0 + above.length < (p.inner area).height := by rwa [Nat.zero_add]
  obtain ⟨upper, lower⟩ := inner_rows p area tall
  obtain ⟨before, drawn, shown⟩ := get?_drawRows p row below inside
    ((p.ground area canvas).restyle (p.inner area) p.style) x
  rw [Nat.zero_add] at shown
  refine ⟨before, (repaints_restyle_ground p area canvas tall).trans (drawn.mono upper lower), ?_⟩
  rw [Paragraph.draw_eq, if_neg (not_or.mpr ⟨wide, tall⟩), rows, shown]

end ProblemVisualizer.Screen
