import RtlFlow.Error
import RtlFlow.Host.FileTree
import RtlFlow.Settings.Basic
import RtlFlow.Table
import RtlFlow.Toml.Reading

/-! # Reading settings

Settings are read from a TOML document. Every section and nearly every member may be left out, and
members that are not known are passed over. In the place of a table with known members a list may
stand, which gives the members in their order. -/

namespace RtlFlow

namespace Toml.Value

/-- **A reader for a part of a document**; the error tells what was expected. -/
abbrev Reader (α : Type) := Value → Except String α

/-- Reads a string. -/
def asText : Reader String
  | .text s => .ok s
  | _ => .error "expected a string"

/-- Reads a path. -/
def asPath : Reader Path := fun v => Path.mk <$> asText v

/-- Reads a truth value. -/
def asBool : Reader Bool
  | .bool b => .ok b
  | _ => .error "expected a boolean"

/-- Reads a number that is not negative. -/
def asNat : Reader Nat
  | .integer n => if 0 ≤ n then .ok n.toNat else .error "expected a number that is not negative"
  | _ => .error "expected an integer"

/-- Reads a list. -/
def asList {α : Type} (item : Reader α) : Reader (List α)
  | .array items => items.mapM item
  | _ => .error "expected a list"

/-- The name under which a date stands as the only member of a table. -/
def dateKey : String := "$__toml_private_datetime"

/-- The members of a table. A date counts as a table with one member. -/
def members? : Value → Option (List (String × Value))
  | .table members => some members
  | .datetime s => some [(dateKey, .text s)]
  | _ => none

/-- Reads a table with any names, and puts them in ascending order. -/
def asMap {α : Type} (item : Reader α) : Reader (List (String × α)) := fun v =>
  match v.members? with
  | none => .error "expected a table"
  | some members => do
    let members ← members.mapM fun (name, v) => do return (name, ← item v)
    return Table.ofList Table.textBefore members

/-- Reads one of several keywords. In the place of the keyword a table may stand in which it is the
name of nothing. -/
def asKeyword {α : Type} (ofKeyword? : String → Option α) : Reader α := fun v =>
  let keyword :=
    match v with
    | .text s | .table [(s, .array [])] | .table [(s, .table [])] => some s
    | _ => none
  match keyword.bind ofKeyword? with
  | some a => .ok a
  | none => .error "expected a keyword"

/-- **The members of a table with known names**, by name. -/
abbrev Fields := String → Option Value

/-- Reads the members of a table with known names, which a list may give in their order. -/
def fields (names : List String) : Reader Fields
  | .array items => .ok fun name => (names.zip items).lookup name
  | v =>
    match v.members? with
    | some members => .ok fun name => members.lookup name
    | none => .error "expected a table"

/-- Reads the members of a table with known names; a list must give them all. -/
def allFields (names : List String) : Reader Fields := fun v =>
  match v with
  | .array items =>
    if items.length < names.length then .error "expected more items" else fields names v
  | v => fields names v

/-- Reads a member that may be left out. -/
def Fields.optional {α : Type} (f : Fields) (name : String) (item : Reader α) :
    Except String (Option α) :=
  match f name with
  | none => .ok none
  | some v => some <$> item v

/-- Reads a member that has a default. -/
def Fields.orElse {α : Type} (f : Fields) (name : String) (item : Reader α) (default : α) :
    Except String α := return (← f.optional name item).getD default

/-- Reads a member that may not be left out. -/
def Fields.required {α : Type} (f : Fields) (name : String) (item : Reader α) :
    Except String α :=
  match f name with
  | none => .error ("missing field '" ++ name ++ "'")
  | some v => item v

end Toml.Value

open Toml.Value

/-- Reads the project section. -/
def ProjectSettings.read : Reader ProjectSettings := fun v => do
  let f ← allFields ["id", "simulator", "synthesizer", "part"] v
  return {
    id := ← f.optional "id" asText
    simulator := ← f.optional "simulator" asText
    synthesizer := ← f.optional "synthesizer" asText
    part := ← f.optional "part" asText }

/-- Reads the section of directories and files. -/
def PathSettings.read : Reader PathSettings := fun v => do
  let f ← allFields ["simulation_dir", "synthesis_dir", "archive_dir", "cache_file"] v
  return {
    simulationDir := ← f.optional "simulation_dir" asPath
    synthesisDir := ← f.optional "synthesis_dir" asPath
    archiveDir := ← f.optional "archive_dir" asPath
    cacheFile := ← f.optional "cache_file" asPath }

/-- Reads the section of limits on time. -/
def TimeoutSettings.read : Reader TimeoutSettings := fun v => do
  let f ← allFields ["compile_secs", "simulate_secs", "synthesize_secs"] v
  return {
    compileSecs := ← f.optional "compile_secs" asNat
    simulateSecs := ← f.optional "simulate_secs" asNat
    synthesizeSecs := ← f.optional "synthesize_secs" asNat }

/-- Reads a severity rule. -/
def RuleSettings.read : Reader RuleSettings := fun v => do
  let f ← allFields ["pattern", "severity"] v
  return ⟨← f.required "pattern" asText, ← f.required "severity" (asKeyword Severity.ofKeyword?)⟩

/-- Reads a script. -/
def ScriptSettings.read : Reader ScriptSettings := fun v => do
  let f ← allFields ["path", "lines"] v
  return ⟨← f.required "path" asText, ← f.required "lines" (asList asText)⟩

/-- Reads a command. -/
def StepSettings.read : Reader StepSettings := fun v => do
  let f ← fields ["program", "args", "script", "env"] v
  return {
    program := ← f.optional "program" asText
    args := ← f.orElse "args" (asList asText) []
    script := ← f.optional "script" ScriptSettings.read
    env := ← f.orElse "env" (asMap asText) [] }

/-- The names of the members of a backend section, in their order. -/
def BackendSettings.names : List String :=
  ["executable", "install_dir", "flow", "operations", "generic_kinds", "constraint_flows",
   "ignore_exit_code", "rules", "generic_format", "include_format", "extra_args", "compile",
   "simulate", "synthesize", "artifacts", "library_dir"]

/-- **Reads a backend section.** -/
def BackendSettings.read : Reader BackendSettings := fun v => do
  let f ← fields BackendSettings.names v
  return {
    executable := ← f.orElse "executable" asText ""
    installDir := ← f.optional "install_dir" asPath
    flow := ← f.optional "flow" asText
    operations := ← f.orElse "operations" (asList (asKeyword Operation.ofKeyword?)) []
    genericKinds := ← f.orElse "generic_kinds" (asList (asKeyword GenericKind.ofKeyword?)) []
    constraintFlows := ← f.orElse "constraint_flows" (asList asText) []
    ignoreExitCode := ← f.orElse "ignore_exit_code" asBool false
    rules := ← f.orElse "rules" (asList RuleSettings.read) []
    genericFormat := ← f.optional "generic_format" asText
    includeFormat := ← f.optional "include_format" asText
    extraArgs := ← f.orElse "extra_args" (asMap asText) []
    compile := ← f.orElse "compile" (asList StepSettings.read) []
    simulate := ← f.orElse "simulate" (asList StepSettings.read) []
    synthesize := ← f.orElse "synthesize" (asList StepSettings.read) []
    artifacts := ← f.orElse "artifacts" (asMap (asList asText)) []
    libraryDir := ← f.optional "library_dir" asText }

namespace Settings

/-- Reads all sections. -/
def read : Reader Settings := fun v => do
  let f ← fields [] v
  return {
    project := ← f.orElse "project" ProjectSettings.read {}
    paths := ← f.orElse "paths" PathSettings.read {}
    timeouts := ← f.orElse "timeouts" TimeoutSettings.read {}
    rules := ← f.orElse "rules" (asList RuleSettings.read) []
    backends := ← f.orElse "backends" (asMap BackendSettings.read) []
    libraries := ← f.orElse "libraries" (asMap (asMap asPath)) [] }

/-- **The settings that a text writes**; `origin` is where the text comes from. -/
def parse (text origin : String) : Except ConfigError Settings :=
  match Toml.parse text with
  | .error e => .error (.parse origin e.message)
  | .ok members =>
    match read (.table members) with
    | .ok s => .ok s
    | .error message => .error (.parse origin message)

/-- **The settings in a file.** A file that does not exist means that nothing is configured. -/
def load (t : FileTree) (p : Path) : Except ConfigError Settings :=
  if !t.isPresent p then .ok {}
  else
    match t.readText p with
    | .error e => .error (.read p.text e.message)
    | .ok content => parse content p.text

/-- The file of the user's own settings, by the directory for settings of all programs, which
counts only when it is absolute, and by the user's home directory. -/
def userPath (configHome : Option String) (home : String) : Path :=
  let base :=
    match configHome.map Path.mk |>.filter Path.isAbsolute with
    | some dir => dir
    | none => Path.mk home |>.child ".config"
  (base.child "hdlbuild").child "config.toml"

end Settings

end RtlFlow
