import RtlFlow.Settings.Basic
import RtlFlow.Text.Quoted
import RtlFlow.Tool.CommandBackend

/-! # Registries

The backends of a project by name. -/

namespace RtlFlow

/-- **Backends by name**, in ascending order. -/
structure BackendRegistry where
  /-- The names with their backends. -/
  entries : List (String × Backend) := []
  deriving Inhabited

namespace BackendRegistry

/-- The registry with a backend, which takes the place of one with the same name. -/
def register (r : BackendRegistry) (b : Backend) : BackendRegistry :=
  ⟨Table.put Table.textBefore b.name b r.entries⟩

/-- The names in ascending order. -/
def names (r : BackendRegistry) : List String := r.entries.map (·.1)

/-- The number of backends. -/
def size (r : BackendRegistry) : Nat := r.entries.length

/-- Whether there is no backend. -/
def isEmpty (r : BackendRegistry) : Bool := r.entries.isEmpty

/-- **The backend with a name.** -/
def find (r : BackendRegistry) (name : String) : Except BuildError Backend :=
  match Table.get? Table.textBefore name r.entries with
  | some b => .ok b
  | none => .error (.unknownBackend name r.names)

/-- The registry as text. -/
def describe (r : BackendRegistry) : String :=
  "BackendRegistry \x7b backends: " ++ Text.quotedList r.names ++ " \x7d"

/-- **The registry that settings configure**, on a machine with a file tree and a search path. -/
def ofSettings (t : FileTree) (searchPath : String) (s : Settings) :
    Except ConfigError BackendRegistry := do
  let shared ← CommandBackend.rulesOf s.rules
  s.backends.foldlM (fun r (name, b) => do
    return r.register (← Backend.ofSettings t searchPath name b shared)) {}

end BackendRegistry

end RtlFlow
