import RtlFlow.Error
import RtlFlow.Text.Blank
import RtlFlow.Text.Search
import RtlFlow.Text.Unicode.CaseMap

/-! # Targets

What is simulated or synthesized: a design unit in a library, written `library.entity`. -/

namespace RtlFlow

open RtlFlow.Text.Unicode

/-- **A design unit in a library**, both in lower case. -/
structure Target where
  /-- The library. -/
  library : String
  /-- The design unit. -/
  entity : String
  deriving DecidableEq, Repr, Inhabited

namespace Target

/-- **The target that a text writes**: two names with one point between them and any blanks around
each, in any case. -/
def parse (text : String) : Except BuildError Target :=
  match Text.splitFirst? "." (Text.trim text) with
  | none => .error (.invalidTarget text)
  | some (library, entity) =>
    let library := Text.trim library
    let entity := Text.trim entity
    if library.isEmpty || entity.isEmpty || entity.toList.contains '.' then
      .error (.invalidTarget text)
    else .ok ⟨lowercase library, lowercase entity⟩

/-- The text of a target. -/
def render (t : Target) : String := t.library ++ "." ++ t.entity

end Target

end RtlFlow
