import RtlFlow.Cache.Filter

/-! # Asking for libraries

Whether the library of a file is there has to be asked. A library is asked for at its first file,
whatever is decided on that file, and the answer is kept for the files behind it. -/

namespace RtlFlow

variable {m : Type → Type} [Monad m]

/-- **The answers that are known**, by library. -/
abbrev Answers := List (String × Bool)

namespace Answers

/-- The answer for a library, if it is known. -/
def get? (known : Answers) (library : String) : Option Bool := List.lookup library known

/-- Whether a library is known to be there. -/
def present (known : Answers) (library : String) : Bool := (known.get? library).getD false

/-- One more answer. -/
def add (known : Answers) (library : String) (answer : Bool) : Answers :=
  known ++ [(library, answer)]

/-- Asks for a library whose answer is not known. -/
def learn (ask : String → m Bool) (known : Answers) (library : String) : m Answers :=
  match known.get? library with
  | some _ => pure known
  | none => known.add library <$> ask library

end Answers

/-- **The libraries of the files of a plan**, in the order of their first files. -/
def BuildPlan.askedLibraries (plan : BuildPlan) : List String :=
  (plan.files.map (·.library)).eraseDups

namespace CacheContent

/-- Decides on files in their order; what is not `known` of their libraries is asked. -/
def decideAsking (lookup : Path → Option CacheEntry) (fingerprint? : Path → Option String)
    (ask : String → m Bool) (known : Answers) (rebuilt : Bool) (newest : UInt64) :
    List SourceFile → m (List PlannedFile)
  | [] => pure []
  | f :: rest => do
    let known ← known.learn ask f.library
    let current := fingerprint? f.path
    let entry := lookup f.path
    let action := decision current entry (known.present f.library) rebuilt newest
    let decided ← decideAsking lookup fingerprint? ask known (rebuilt || action.isBuild)
      (newestAfter action entry newest) rest
    return ⟨f, action, current⟩ :: decided

/-- **The plan with the decisions for a backend**, where it is asked which libraries are there. -/
def filterAsking (c : CacheContent) (plan : BuildPlan) (backend : String)
    (fingerprint? : Path → Option String) (ask : String → m Bool) : m FilteredPlan :=
  FilteredPlan.mk <$> decideAsking (c.find? backend) fingerprint? ask [] false 0 plan.files

end CacheContent

end RtlFlow
