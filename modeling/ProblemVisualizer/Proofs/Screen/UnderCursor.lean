import ProblemVisualizer.Proofs.Screen.Greedy
import ProblemVisualizer.Proofs.Screen.Painting
import ProblemVisualizer.Proofs.Screen.TerminalCursor

/-! What is under the cursor.

The rows of a field are broken and its cursor is placed by characters; what is painted
are clusters, cut at the border. Where each character is a cluster of its own and takes
one column or two, the two agree down to the cell: `under_cursor` says that the cell
where the cursor is drawn shows the character that the cursor stands before. -/
namespace ProblemVisualizer.Screen

open Form (Field)
open Text (OpenCluster charWidth charsWidth clusterWidth_singleton clusters clustersAfter isControl)

/-! ### Clusters of one character -/

/-- Each character is a cluster of its own. -/
def Lone (cs : List Char) : Prop := clusters cs = cs.map fun c => [c]

theorem exists_clustersAfter (k : OpenCluster) (cluster rest : List Char) :
    ∃ more below, clustersAfter k cluster rest = (cluster ++ more) :: below := by
  induction rest generalizing k cluster with
  | nil => exact ⟨[], [], by rw [List.append_nil]; rfl⟩
  | cons c rest ih =>
    unfold clustersAfter
    split
    · obtain ⟨more, below, grown⟩ := ih (k.push c) (cluster ++ [c])
      exact ⟨c :: more, below, by rw [grown, List.append_assoc, List.singleton_append]⟩
    · exact ⟨[], _, by rw [List.append_nil]⟩

/-- Whether a character is a cluster of its own is between it and the next one. -/
theorem lone_iff (cs : List Char) :
    Lone cs ↔ cs.IsChain fun c d => (OpenCluster.start c).takes d = false := by
  unfold Lone
  cases cs with
  | nil => simp [clusters]
  | cons c rest =>
    -- As long as no cluster has grown, the rules stand where they do at the start of one.
    induction rest generalizing c with
    | nil => simp [clusters, clustersAfter]
    | cons d rest ih =>
      rw [List.isChain_cons_cons, ← ih d]
      cases taken : (OpenCluster.start c).takes d with
      | true =>
        obtain ⟨more, below, grown⟩ :=
          exists_clustersAfter ((OpenCluster.start c).push d) [c, d] rest
        have whole : clusters (c :: d :: rest) = ([c, d] ++ more) :: below := by
          rw [← grown, clusters, clustersAfter, if_pos taken]
          rfl
        simp [whole]
      | false =>
        have whole : clusters (c :: d :: rest) = [c] :: clusters (d :: rest) := by
          rw [clusters, clustersAfter, if_neg (by simp [taken])]
          rfl
        simp [whole]

theorem Lone.part {cs row : List Char} (h : Lone cs) (inside : row <:+: cs) : Lone row := by
  obtain ⟨before, after, rfl⟩ := inside
  exact (lone_iff row).mpr ((lone_iff _).mp h).left_of_append.right_of_append

/-! ### Rows as they are painted -/

/-- A character as it is painted in a field. -/
def glyph (c : Char) : Glyph := ⟨[c], charWidth c, {}⟩

theorem Line.width_map_glyph (row : List Char) : Line.width (row.map glyph) = charsWidth row := by
  induction row with
  | nil => rfl
  | cons c rest ih =>
    rw [Text.charsWidth_cons, ← ih]
    rfl

theorem not_isControl {c : Char} (columns : charWidth c ≠ 0) : isControl c = false := by
  cases control : isControl c with
  | false => rfl
  | true =>
    have none : charWidth c = 0 := by
      unfold charWidth
      exact if_pos control
    exact absurd none columns

theorem Line.ofChars_eq_map {row : List Char} (columns : ∀ c ∈ row, charWidth c ≠ 0)
    (lone : Lone row) : Line.ofChars {} row = row.map glyph := by
  by_cases some : row = []
  · rw [some]
    rfl
  have single : Text.lines row = [row] :=
    Text.lines_of_not_mem (fun feed => columns _ feed (by decide)) some
  unfold Line.ofChars
  rw [single, List.flatMap_singleton, lone, List.map_map]
  refine List.map_congr_left fun c hc => ?_
  show (⟨[c], _, {}⟩ : Glyph) = glyph c
  rw [clusterWidth_singleton c (not_isControl (columns c hc))]
  rfl

/-- A text that is painted character by character. -/
structure Legible (cs : List Char) : Prop where
  columns : ∀ c ∈ cs, charWidth c = 1 ∨ charWidth c = 2
  lone : Lone cs

theorem Legible.part {cs row : List Char} (h : Legible cs) (inside : row <:+: cs) : Legible row :=
  ⟨fun c hc => h.columns c (inside.subset hc), h.lone.part inside⟩

namespace FieldRows

variable {value : String} {index width : Nat} {row : List Char}

theorem part_of_mem_rows (mem : row ∈ (ofText value index width).rows) : row <:+: value.toList := by
  have whole : (ofText value index width).rows.flatten = value.toList := flatten_rowsFrom ..
  obtain ⟨above, below, split⟩ := List.append_of_mem mem
  refine ⟨above.flatten, below.flatten, ?_⟩
  rw [← whole, split, List.flatten_append, List.flatten_cons, List.append_assoc]

/-- A row is as wide as the field at most, where two characters can stand side by side. -/
theorem charsWidth_le (legible : Legible value.toList) (wide : 2 ≤ width)
    (mem : row ∈ (ofText value index width).rows) : charsWidth row ≤ width := by
  have positive : max width 1 = width := max_eq_left (by omega)
  have part := part_of_mem_rows mem
  rw [rows_ofText] at mem
  rcases (Page.tidy_blank.write value.toList).fits row mem with narrow | ⟨bare, c, rfl, -, wider⟩
  · rwa [positive] at narrow
  · have columns := legible.columns c (part.subset (by simp))
    omega

/-- The whole row is painted, one glyph for each character. -/
theorem cut_ofChars (legible : Legible value.toList) (wide : 2 ≤ width)
    (mem : row ∈ (ofText value index width).rows) :
    (Line.ofChars {} row).cut width = row.map glyph := by
  obtain ⟨columns, lone⟩ := legible.part (part_of_mem_rows mem)
  have positive : ∀ c ∈ row, charWidth c ≠ 0 := fun c hc none => by
    have := columns c hc
    omega
  have narrow : Line.width (row.map glyph) ≤ width := by
    rw [Line.width_map_glyph]
    exact charsWidth_le legible wide mem
  rw [Line.ofChars_eq_map positive lone, Line.cut_eq_self narrow]

end FieldRows

/-! ### The screen -/

variable {σ : Type} {a : App σ} {field : Field} {area : Area} {c : Char} {index : Nat} {spot : Spot}

theorem rows_fieldParagraph (legible : Legible (a.buffer field).value.toList)
    (some : (a.buffer field).value ≠ "") (wide : 4 ≤ area.width) :
    (fieldParagraph a field area).rows area.inner.width
      = (fieldRows a field area).rows.map (List.map glyph) := by
  have filled : (a.buffer field).value.isEmpty = false := by simpa using some
  have inside : 2 ≤ area.width - 2 := by omega
  show ((if (a.buffer field).value.isEmpty then _ else _) : List Line).map _ = _
  rw [filled, if_neg Bool.false_ne_true, List.map_map]
  exact List.map_congr_left fun row mem => FieldRows.cut_ofChars legible inside mem

/-- What a field is drawn with shows each character in its place. -/
theorem symbol_field (legible : Legible (a.buffer field).value.toList) (wide : 4 ≤ area.width)
    (stands : Stands (fieldRows a field area).rows index c spot) (room : spot.row < area.inner.height)
    {canvas : Canvas}
    (place : (canvas.get? (area.inner.x + spot.column) (area.inner.y + spot.row)).isSome = true) :
    (((fieldParagraph a field area).draw area canvas).get? (area.inner.x + spot.column)
      (area.inner.y + spot.row)).map Cell.symbol = some (String.ofList [c]) := by
  have whole : (fieldRows a field area).rows.flatten = (a.buffer field).value.toList :=
    flatten_rowsFrom ..
  have inside : c ∈ (a.buffer field).value.toList := whole ▸ List.mem_of_getElem? stands.getElem?
  have filled : (a.buffer field).value ≠ "" := by
    intro empty
    rw [empty] at inside
    cases inside
  have rows := rows_fieldParagraph legible filled wide
  obtain ⟨above, before, after, below, split, -, rfl⟩ := stands.split
  have painted : (fieldParagraph a field area).rows area.inner.width
      = above.map (List.map glyph) ++ (before.map glyph ++ glyph c :: after.map glyph)
        :: below.map (List.map glyph) := by
    rw [rows, split]
    simp
  have columns : (glyph c).width ≠ 0 := by
    have := legible.columns c inside
    show charWidth c ≠ 0
    omega
  have full : area.inner.width ≠ 0 := by
    simp only [Area.inner]
    omega
  have below_top : (above.map (List.map glyph)).length < area.inner.height := by
    rwa [List.length_map]
  obtain ⟨ground, drawn, shown⟩ := get?_paragraph (fieldParagraph a field area) area painted full
    below_top canvas (area.inner.x + charsWidth before)
  have unmoved (row : Line) : (fieldParagraph a field area).indent area.inner.width row = 0 := rfl
  have inner : (fieldParagraph a field area).inner area = area.inner := rfl
  rw [List.length_map, inner, unmoved, Nat.add_zero] at shown
  rw [shown, ← Line.width_map_glyph]
  rw [← drawn.places, ← Line.width_map_glyph] at place
  exact Line.symbol_draw columns place

/-- What a screen shows in the rows of a panel is what is drawn for that panel. -/
theorem exists_ground {width height : Nat} {panel : Panel} (normal : a.mode = .normal)
    (drawn : a.Draws width height panel area) :
    ∃ ground : Canvas,
      (∀ x y, (ground.get? x y).isSome = ((Canvas.blank width height).get? x y).isSome) ∧
      ∀ x y, y < area.bottom → (render a width height).canvas.get? x y
        = (drawPanel a panel area ground).get? x y := by
  obtain ⟨above, below, splits⟩ := stack_split drawn
  have shut : ¬ a.mode = .help := by
    rw [normal]
    exact nofun
  have canvas : (render a width height).canvas
      = paint a (layout (appPanels a) width height) (Canvas.blank width height) := if_neg shut
  obtain ⟨_, before⟩ := repaints_stack a width (height - fixedHeight (appPanels a)) 0 above
    (Canvas.blank width height)
  obtain ⟨_, after⟩ := repaints_stack a width (height - fixedHeight (appPanels a)) area.bottom below
    (drawPanel a panel area (paint a (stack width (height - fixedHeight (appPanels a)) 0 above)
      (Canvas.blank width height)))
  -- What is drawn afterwards lies below.
  refine ⟨_, before.places, fun x y inside => ?_⟩
  rw [canvas, layout, splits.stack_eq, paint_append, paint_cons]
  exact after.outside x y (.inl inside)

/-- **The cell under the cursor shows the character that the cursor stands before.** Take any state
in which keys go to a field that can be visited, and any screen of four columns or more with the rows
for the panels. Let each character of the text be a cluster of its own and take one column or two.
If the cursor stands before a character, and on one of the rows inside the box of the field, the
terminal's cursor is drawn in that row and column, and the cell there shows that character. -/
theorem under_cursor {width height : Nat} (visited : a.focus ∈ a.tabOrder) (roomy : Roomy a height)
    (wide : 4 ≤ width) (small : width < coordinateBound ∧ height < coordinateBound)
    (normal : a.mode = .normal) (legible : Legible a.focusedBuffer.value.toList) :
    (∃ area, a.Draws width height (.field a.focus) area) ∧
    ∀ area, a.Draws width height (.field a.focus) area →
      ∀ c, a.focusedBuffer.value.toList[a.focusedBuffer.cursor]? = some c →
        let spot := (fieldRows a a.focus area).cursor
        let x := area.inner.x + spot.column
        let y := area.inner.y + spot.row
        Stands (fieldRows a a.focus area).rows a.focusedBuffer.cursor c spot ∧
        (spot.row < area.inner.height → (render a width height).cursor = some (x, y) ∧
          ((render a width height).canvas.get? x y).map Cell.symbol = some (String.ofList [c])) := by
  refine ⟨exists_draws_focus visited _ _, fun area drawn c inside => ?_⟩
  have stands : Stands (fieldRows a a.focus area).rows a.focusedBuffer.cursor c
      (fieldRows a a.focus area).cursor := FieldRows.stands_cursor (area.width - 2) inside
  refine ⟨stands, fun room => ?_⟩
  obtain ⟨left, whole, -⟩ := area_of_draws_field drawn
  have bottom := bottom_le_of_draws drawn roomy
  have row : area.inner.y + (fieldRows a a.focus area).cursor.row < area.bottom := by
    simp only [Area.inner, Area.bottom] at room ⊢
    omega
  have column : area.inner.x + (fieldRows a a.focus area).cursor.column < width := by
    have columns := legible.columns c (List.mem_of_getElem? inside)
    have within : (fieldRows a a.focus area).cursor.column ≤ max (area.width - 2) 1 ∧
        ((fieldRows a a.focus area).cursor.column = max (area.width - 2) 1 → charWidth c = 0) :=
      FieldRows.column_cursor (area.width - 2) inside
    simp only [Area.inner]
    omega
  constructor
  · have counted : area.inner.y + (fieldRows a a.focus area).cursor.row < coordinateBound := by omega
    rw [cursor_render drawn, fieldCursor?_of_lt drawn small.1 normal counted, if_pos room]
  · obtain ⟨ground, places, shown⟩ := exists_ground normal drawn
    have place := isSome_get?_blank column (Nat.lt_of_lt_of_le row bottom)
    rw [← places] at place
    rw [shown _ _ row]
    exact symbol_field legible (by omega) stands room place

/-- The cursor stands before the first letter, behind a wide character on the second row. -/
theorem under_cursor_wide :
    Field.problem ∈ (asking "苹果ab" 2).tabOrder ∧ Roomy (asking "苹果ab" 2) 14 ∧ 4 ≤ 5 ∧
      (5 < coordinateBound ∧ 14 < coordinateBound) ∧ (asking "苹果ab" 2).mode = .normal ∧
      Legible "苹果ab".toList ∧ (render (asking "苹果ab" 2) 5 14).cursor = some (3, 3) ∧
      ((render (asking "苹果ab" 2) 5 14).canvas.get? 3 3).map Cell.symbol = some "a" := by
  have visited := focus_asking "苹果ab" 2
  have roomy := roomy_asking "苹果ab" 2
  have small : 5 < coordinateBound ∧ 14 < coordinateBound := by decide
  have wide : charWidth '苹' = 2 ∧ charWidth '果' = 2 := by decide +kernel
  have narrow : charWidth 'a' = 1 ∧ charWidth 'b' = 1 := by decide +kernel
  have legible : Legible "苹果ab".toList := {
    columns := by simp [wide, narrow]
    lone := by
      unfold Lone
      decide +kernel }
  have rows : (fieldRows (asking "苹果ab" 2) (asking "苹果ab" 2).focus ⟨0, 1, 5, 6⟩).cursor
      = ⟨2, 1⟩ := by decide +kernel
  obtain ⟨-, shown⟩ := (under_cursor visited roomy (show 4 ≤ 5 by decide) small rfl legible).2 _
    (draws_asking "苹果ab" 2 5) 'a' rfl
  rw [rows] at shown
  obtain ⟨cursor, symbol⟩ := shown (by decide)
  exact ⟨visited, roomy, by decide, small, rfl, legible, cursor, symbol⟩

end ProblemVisualizer.Screen
