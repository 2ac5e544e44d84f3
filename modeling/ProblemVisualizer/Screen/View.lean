import ProblemVisualizer.Screen.Division
import ProblemVisualizer.Screen.FieldRows
import ProblemVisualizer.Screen.Help
import ProblemVisualizer.Screen.Paragraph

/-! How the client looks.

Each panel is a paragraph or two in its area. The cursor shows in the field that
has the focus, as long as its row lies inside the field's box. The help, while
it is open, covers the middle of the screen and hides the cursor. -/
namespace ProblemVisualizer.Screen

open Form (Field)
open Generation (Artifact Result)
open Session (RequestState)

variable {σ : Type}

/-- A screen ready to be shown. -/
structure Frame where
  canvas : Canvas
  cursor : Option (Nat × Nat)

/-! ### Fields -/

/-- Whether keys go to a field. -/
def isActive (a : App σ) (field : Field) : Bool := a.focus = field && a.mode = .normal

def fieldRows (a : App σ) (field : Field) (area : Area) : FieldRows :=
  let buffer := a.buffer field
  .ofText buffer.value buffer.cursor (area.width - 2)

def fieldBlock (a : App σ) (field : Field) : Block :=
  let error := a.errors.get? field
  { title := field.title
    note := error.map fun e => (e.message, {foreground := some .red})
    border :=
      if error.isSome then {foreground := some .red}
      else if isActive a field then {foreground := some .yellow}
      else {} }

def fieldParagraph (a : App σ) (field : Field) (area : Area) : Paragraph :=
  { lines :=
      if (a.buffer field).value.isEmpty then
        [.ofString (field.placeholder) {foreground := some .darkGray}]
      else (fieldRows a field area).rows.map (Line.ofChars {})
    block := some (fieldBlock a field)
    style := {bold := field = .description} }

/-- Where the cursor of the active field is drawn, if its row shows. -/
def fieldCursor? (a : App σ) (field : Field) (area : Area) : Option (Nat × Nat) :=
  if isActive a field then
    let spot := (fieldRows a field area).cursor
    let x := (area.x + 1 + spot.column) % coordinateBound
    let y := (area.y + 1 + spot.row) % coordinateBound
    if y < area.y + (area.height - 1) then some (x, y) else none
  else none

/-! ### The other panels -/

def headerText : String :=
  "Math2Visual - enter a math word problem to generate visual representations"

def header : Paragraph :=
  {lines := Line.manyOfString headerText, style := {foreground := some .cyan}}

/-- A button; while a request is pending it says what is going on instead. -/
def button (a : App σ) (label busyLabel : String) : Paragraph :=
  { lines := Line.manyOfString (" " ++ (if a.isPending then busyLabel else label) ++ " ")
    style :=
      if a.isPending then {foreground := some .darkGray}
      else {foreground := some .black, background := some .green}
    centred := true }

def errorBox (message : String) : Paragraph :=
  { lines := Line.manyOfString ("Error: " ++ message)
    block := some {}
    style := {foreground := some .red}
    wrapping := .words true }

/-- The reasons why drawings are missing. -/
def missingBox (r : Result) : Paragraph :=
  { lines := r.missing.map fun (_, reason) => .ofString reason {}
    block := some {title := "Visualizations"}
    style := {foreground := some .red}
    wrapping := .words true }

/-- The keys that save a drawing. -/
def saveKeys : Artifact → String
  | .formal => "Ctrl+F"
  | .intuitive => "Ctrl+T"

/-- The markup of a drawing. -/
def drawingBox (r : Result) (artifact : Artifact) : Paragraph :=
  { lines := Line.manyOfString ((r.rendering artifact).markup?.getD "")
    block := some {
      title := artifact.label
      note := some (saveKeys artifact ++ ": save " ++ artifact.filename,
        {foreground := some .magenta}) }
    wrapping := .words false }

def waiting : Paragraph :=
  { lines := Line.manyOfString "Generating visualizations…"
    style := {foreground := some .darkGray}
    centred := true }

def drawDrawings (state : RequestState) (area : Area) (canvas : Canvas) : Canvas :=
  match state with
  | .succeeded result =>
    if result.isComplete then
      let (left, right) := area.halves
      (drawingBox result .intuitive).draw right ((drawingBox result .formal).draw left canvas)
    else (missingBox result).draw area canvas
  | .pending _ => waiting.draw area canvas
  | .idle | .failed _ => canvas

def statusText (a : App σ) : String :=
  match a.mode with
  | .help => "↑↓/jk: scroll | PgUp/PgDn: fast scroll | Home: top | Esc/q: close help"
  | .normal =>
    match a.status with
    | some status => status
    | none =>
      if a.isPending then "Waiting for the generation service…"
      else "Tab: next field | Enter: submit | Ctrl+F/Ctrl+T: save SVG | Ctrl+Y: copy | " ++
        "F1: help | Ctrl+Q: quit"

def statusBar (a : App σ) : Paragraph :=
  { lines := Line.manyOfString (statusText a)
    block := some {title := "Status"}
    style :=
      match a.mode with
      | .help => {foreground := some .cyan}
      | .normal => if a.isPending then {foreground := some .yellow} else {} }

def drawPanel (a : App σ) (panel : Panel) (area : Area) (canvas : Canvas) : Canvas :=
  match panel with
  | .header => header.draw area canvas
  | .field field => (fieldParagraph a field area).draw area canvas
  | .generate => (button a "Enter: Generate Visualization" "Generating…").draw area canvas
  | .error message => (errorBox message).draw area canvas
  | .resubmit => (button a "Ctrl+R: Resubmit Visualization" "Updating…").draw area canvas
  | .drawings => drawDrawings a.request area canvas
  | .status => (statusBar a).draw area canvas

/-- Where the cursor is drawn for a panel. -/
def panelCursor? (a : App σ) : Panel × Area → Option (Nat × Nat)
  | (.field field, area) => fieldCursor? a field area
  | _ => none

/-! ### The help -/

def helpBox (scroll room : Nat) : Paragraph :=
  { lines := (Help.window scroll room).map fun line => .ofString line {}
    block := some {
      title := "Math2Visual Help (Line " ++ toString (Help.firstLine scroll room + 1) ++ "/" ++
        toString Help.lines.length ++ ")"
      style := {foreground := some .cyan} }
    style := {foreground := some .white} }

def drawHelp (scroll : Nat) (canvas : Canvas) : Canvas :=
  let area := Help.popup canvas.width canvas.height
  (helpBox scroll (area.height - 2)).draw area (canvas.clear area)

/-! ### The whole screen -/

def appPanels (a : App σ) : List Panel := panels a.request.error? a.description.seeded

/-- Draws panels, each in its area, and then the help if it is open. -/
def compose (a : App σ) (areas : List (Panel × Area)) (width height : Nat) : Frame :=
  let canvas := areas.foldl (fun canvas (panel, area) => drawPanel a panel area canvas)
    (Canvas.blank width height)
  { canvas := if a.mode = .help then drawHelp a.helpScroll canvas else canvas
    cursor := areas.findSome? (panelCursor? a) }

def render (a : App σ) (width height : Nat) : Frame :=
  compose a (layout (appPanels a) width height) width height

/-! ### By a rule -/

/-- What is asked for on account of the panels. -/
def appConstraints (a : App σ) : List Constraint :=
  constraints a.request.error?.isSome a.description.seeded

/-- The panels with the areas that they are handed out when a rule divides the screen. -/
def handedOut (split : Divider) (a : App σ) (width height : Nat) : List (Panel × Area) :=
  handOut (split ⟨0, 0, width, height⟩ (appConstraints a)) (appPanels a)

/-- The screen as a rule divides it. -/
def renderBy (split : Divider) (a : App σ) (width height : Nat) : Frame :=
  compose a (handedOut split a width height) width height

end ProblemVisualizer.Screen
