import ProblemVisualizer.Text.Buffer

/-! The fields of the two forms. -/
namespace ProblemVisualizer.Form

open Text (EditBuffer)

inductive Field where
  | problem
  | formula
  | description
deriving DecidableEq, Repr

def Field.name : Field → String
  | problem => "problem"
  | formula => "formula"
  | description => "description"

def Field.title : Field → String
  | problem => "Math Word Problem"
  | formula => "Formula"
  | description => "Visual Language"

/-- What an empty field shows. -/
def Field.placeholder : Field → String
  | problem => "Enter your math word problem…"
  | formula => "Optional formula (e.g. 9 + 7 = 16)"
  | description => ""

/-- The forms: one asks for a new visualization, the other sends edited visual language back. -/
inductive FormName where
  | problem
  | description
deriving DecidableEq, Repr

/-- The form a field belongs to. -/
def Field.form : Field → FormName
  | problem | formula => .problem
  | description => .description

/-- The field that a form cannot do without. -/
def FormName.required : FormName → Field
  | problem => .problem
  | description => .description

structure ProblemForm where
  problem : EditBuffer := .empty
  formula : EditBuffer := .empty
deriving DecidableEq, Repr

def ProblemForm.ofTexts (problem formula : String) : ProblemForm :=
  ⟨.ofText problem, .ofText formula⟩

/-- The form for visual language opens once a result has seeded it. -/
structure DescriptionForm where
  buffer : EditBuffer := .empty
  seeded : Bool := false
deriving DecidableEq, Repr

namespace DescriptionForm

def ofText (description : String) : DescriptionForm := ⟨.ofText description, true⟩

/-- Shows `value` in the form, and whether that changed the text. A text that is already there
keeps its cursor. -/
def seed (f : DescriptionForm) (value : String) : Bool × DescriptionForm :=
  if f.buffer.value = value then (false, {f with seeded := true})
  else (true, ⟨.ofText value, true⟩)

end DescriptionForm

end ProblemVisualizer.Form
