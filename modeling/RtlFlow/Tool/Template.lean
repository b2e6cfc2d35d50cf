import RtlFlow.Error
import RtlFlow.Text.Blank
import RtlFlow.Text.Search

/-! # Templates

Arguments, script lines and paths of a configured command are templates, in which a key between
braces stands for a value of the request. A key stands for one text or for a list of texts. The
keys are replaced one after the other in a fixed order, each wherever it occurs at that moment. -/

namespace RtlFlow.Template

/-- **A key that stands for one text.** The constructors stand in the order of replacement. -/
inductive ScalarKey where
  /-- The file to be compiled. -/
  | file
  /-- The library of the file or unit. -/
  | library
  /-- The unit. -/
  | entity
  /-- The part to synthesize for. -/
  | part
  /-- The work directory. -/
  | workDir
  /-- The time to be simulated. -/
  | duration
  deriving DecidableEq, Repr, Inhabited

/-- **A key that stands for a list of texts.** The constructors stand in the order of
replacement. -/
inductive ListKey where
  /-- The generics. -/
  | generics
  /-- The precompiled libraries. -/
  | includes
  /-- The files of the design. -/
  | files
  /-- The constraints files. -/
  | constraints
  /-- Further arguments. -/
  | extra
  deriving DecidableEq, Repr, Inhabited

/-- The keys for one text in the order of replacement. -/
def scalarKeys : List ScalarKey := [.file, .library, .entity, .part, .workDir, .duration]

/-- The keys for lists in the order of replacement. -/
def listKeys : List ListKey := [.generics, .includes, .files, .constraints, .extra]

/-- A key as it stands in a template. -/
def placeholder (key : String) : String := "\x7b" ++ key ++ "\x7d"

/-- The name of a key for one text. -/
def ScalarKey.keyword : ScalarKey → String
  | .file => "file"
  | .library => "library"
  | .entity => "entity"
  | .part => "part"
  | .workDir => "work_dir"
  | .duration => "duration"

/-- The name of a key for a list. -/
def ListKey.keyword : ListKey → String
  | .generics => "generics"
  | .includes => "includes"
  | .files => "files"
  | .constraints => "constraints"
  | .extra => "extra"

/-- A key for one text as it stands in a template. -/
def ScalarKey.placeholder (k : ScalarKey) : String := Template.placeholder k.keyword

/-- A key for a list as it stands in a template. -/
def ListKey.placeholder (k : ListKey) : String := Template.placeholder k.keyword

/-- **The values of a request.** -/
structure Values where
  /-- The texts of the keys for one text; a request need not have them all. -/
  scalar : ScalarKey → Option String
  /-- The lists of the keys for lists. -/
  items : ListKey → List String

/-- Replaces keys for one text in turn. A key that occurs and has no text is the error. -/
def replaceScalars (backend : String) (values : Values) :
    List ScalarKey → String → Except ToolError String
  | [], s => .ok s
  | k :: rest, s =>
    if Text.contains s k.placeholder then
      match values.scalar k with
      | some v => replaceScalars backend values rest (Text.replaceAll s k.placeholder v)
      | none => .error (.missingValue backend k.placeholder)
    else replaceScalars backend values rest s

/-- **A template with the keys for one text replaced.** -/
def expandScalars (backend : String) (values : Values) (s : String) : Except ToolError String :=
  replaceScalars backend values scalarKeys s

/-- A text with the keys for lists replaced by their texts with blanks between them. -/
def replaceLists (values : Values) (s : String) : String :=
  listKeys.foldl (fun s k => Text.replaceAll s k.placeholder (" ".intercalate (values.items k))) s

/-- The key for a list that a template consists of, blanks apart. -/
def wholeList? (s : String) : Option ListKey :=
  listKeys.find? fun k => Text.trim s == k.placeholder

/-- The values are without a time to be simulated that the template asks for. -/
def lacksDuration (values : Values) (s : String) : Bool :=
  Text.contains s ScalarKey.duration.placeholder && (values.scalar .duration).isNone

/-- What a template that is no list expands to: one text, or none when it asks for a time to be
simulated and there is none. -/
def expandText (backend : String) (values : Values) (s : String) :
    Except ToolError (List String) :=
  if lacksDuration values s then .ok []
  else (expandScalars backend values s).map fun s => [replaceLists values s]

/-- **The arguments that a template expands to.** A list gives an argument for each of its
texts. -/
def expandArgument (backend : String) (values : Values) (s : String) :
    Except ToolError (List String) :=
  match wholeList? s with
  | some k => .ok (values.items k)
  | none => expandText backend values s

/-- **The lines that a template expands to.** A list gives one line, or none when it is empty. -/
def expandLine (backend : String) (values : Values) (s : String) :
    Except ToolError (List String) :=
  match wholeList? s with
  | some k => .ok (if (values.items k).isEmpty then [] else [" ".intercalate (values.items k)])
  | none => expandText backend values s

/-- Expands templates in turn and puts the results together. -/
def expandAll (expand : String → Except ToolError (List String)) (templates : List String) :
    Except ToolError (List String) := do
  return (← templates.mapM expand).flatten

end RtlFlow.Template
