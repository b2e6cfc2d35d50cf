import RtlFlow.Table

/-! # Facts about a VHDL file

What the ordering of compilation needs to know of a source file: the libraries that it names, the
units that it uses and instantiates, and the packages and entities that it declares. From these
follow the libraries that must be compiled before it, the units of its own library to which it
refers, and the units that it provides. -/

namespace RtlFlow

/-- **A reference to a design unit**, qualified by a library or not. -/
structure UnitRef where
  /-- The library as written; none when the reference is not qualified. -/
  library : Option String
  /-- The unit. -/
  unit : String
  deriving DecidableEq, Repr, Inhabited

/-- The order of references: unqualified ones first, then by library and by unit. -/
def UnitRef.before (r s : UnitRef) : Bool :=
  match r.library, s.library with
  | none, none => r.unit < s.unit
  | none, some _ => true
  | some _, none => false
  | some a, some b => a < b || (a == b && r.unit < s.unit)

/-- A set of references in ascending order, with one more. -/
def UnitRef.addTo (r : UnitRef) : List UnitRef → List UnitRef
  | [] => [r]
  | s :: rest =>
    if r.before s then r :: s :: rest else if s.before r then s :: addTo r rest else s :: rest

/-- The references of a list as a set in ascending order. -/
def UnitRef.setOf (refs : List UnitRef) : List UnitRef :=
  refs.foldl (fun set r => r.addTo set) []

/-- **The facts about a source file.** Each field is a set in ascending order. -/
structure HdlFacts where
  /-- The libraries named in library clauses. -/
  libraries : List String := []
  /-- The units named in use clauses. -/
  uses : List UnitRef := []
  /-- The packages declared, bodies apart. -/
  packages : List String := []
  /-- The entities declared. -/
  entities : List String := []
  /-- The units instantiated. -/
  instances : List UnitRef := []
  deriving DecidableEq, Repr, Inhabited

namespace HdlFacts

/-- The library name that means the library of the file itself. -/
def workLibrary : String := "work"

/-- The libraries that every toolchain provides. -/
def builtinLibraries : List String := ["ieee", "std"]

/-- Whether a library needs no ordering against a file of library `own`. -/
def isImplicit (own library : String) : Bool :=
  library == workLibrary || library == own || builtinLibraries.contains library

/-- **The libraries that a file of library `own` needs compiled before it.** -/
def requiredLibraries (f : HdlFacts) (own : String) : List String :=
  Table.textSet
    ((f.libraries ++ (f.uses ++ f.instances).filterMap (·.library)).filter fun l =>
      !isImplicit own l)

/-- Whether a reference stays inside library `own`. -/
def isLocal (own : String) (r : UnitRef) : Bool :=
  match r.library with
  | some l => l == workLibrary || l == own
  | none => true

/-- **The units of library `own` to which a file of that library refers.** -/
def localReferences (f : HdlFacts) (own : String) : List String :=
  Table.textSet
    (((f.uses.filter fun r => r.library.isSome && isLocal own r) ++
      f.instances.filter (isLocal own)).map (·.unit))

/-- **The units that a file provides**: its packages and then its entities. -/
def providedUnits (f : HdlFacts) : List String := f.packages ++ f.entities

end HdlFacts

end RtlFlow
