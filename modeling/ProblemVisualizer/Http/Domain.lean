import ProblemVisualizer.Http.Domain.Direction
import ProblemVisualizer.Http.Domain.Label

/-! Host names in the form they are looked up.

All spellings of a name come to one form, and that is written in ASCII label by
label. -/
namespace ProblemVisualizer.Http

open Domain (Label)

/-- A name in ASCII; nothing if it is no name, or holds a forbidden character. -/
def domainToAscii? (isForbidden : Char → Bool) (cs : List Char) : Option (List Char) :=
  match Domain.mapText? cs with
  | none => none
  | some mapped =>
    if mapped.any isForbidden then none
    else match (Text.splitAll (· = '.') mapped).mapM (Label.ofMapped? isForbidden) with
      | none => none
      | some labels =>
        if labels.any (fun l => Domain.holdsRightToLeft l.shown) &&
            !labels.all (fun l => Domain.keepsDirection l.shown) then none
        else some (['.'].intercalate (labels.map Label.ascii))

end ProblemVisualizer.Http
