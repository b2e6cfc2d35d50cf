import RtlFlow.Text.Lines

/-! # Paths

A path is kept as the text it was written in; what it means is its list of components. Repeated
separators, separators at the end and inner `.` segments write no component, so several texts can
have the same components, and equality and order in ordered tables go by components. Taking a
path apart (`parent?`, `fileName?`, `stem?`, `extension?`) and putting paths together (`join`)
keep the spelling of what remains. -/

namespace RtlFlow

/-- **A path**, as the text it was written in. -/
structure Path where
  /-- The text. -/
  text : String
  deriving DecidableEq, Repr, Inhabited

namespace Path

/-- **A component of a path.** The order of the constructors is the order of components. -/
inductive Component where
  /-- The leading separator of an absolute path. -/
  | root
  /-- A leading `.`. -/
  | here
  /-- The segment `..`. -/
  | up
  /-- Any other segment. -/
  | name (s : String)
  deriving DecidableEq, Repr, Inhabited

/-- The text of a path cut up: whether it begins with a separator, whether it begins with a `.`
segment, and the segments behind that. -/
structure Parts where
  /-- The text begins with a separator. -/
  rooted : Bool
  /-- The text begins with a `.` segment. -/
  dotted : Bool
  /-- The other segments, empty and `.` ones included. -/
  body : List String
  deriving DecidableEq, Repr

/-- The text as parts. -/
def parts (p : Path) : Parts :=
  match Text.piecesAt '/' [] p.text.toList with
  | [] :: rest =>
    if rest.isEmpty then ⟨false, false, []⟩ else ⟨true, false, rest.map String.ofList⟩
  | ['.'] :: rest => ⟨false, true, rest.map String.ofList⟩
  | pieces => ⟨false, false, pieces.map String.ofList⟩

/-- Whether a segment writes no component. -/
def isFiller (s : String) : Bool := s == "" || s == "."

/-- The segments without the fillers at the end. -/
def trimFillers (body : List String) : List String :=
  (body.reverse.dropWhile isFiller).reverse

/-- The text that parts write. -/
def Parts.render (p : Parts) : Path :=
  let body := "/".intercalate p.body
  ⟨if p.rooted then "/" ++ body
    else if p.dotted then if p.body.isEmpty then "." else "./" ++ body
    else body⟩

/-- The component that a segment writes. -/
def componentOf (s : String) : Component := if s == ".." then .up else .name s

/-- **The components of a path.** -/
def components (p : Path) : List Component :=
  let q := p.parts
  (if q.rooted then [.root] else if q.dotted then [.here] else []) ++
    (q.body.filter fun s => !isFiller s).map componentOf

/-- The segments by which a path is followed in a tree of directories. -/
def segments (p : Path) : List String :=
  ((Text.piecesAt '/' [] p.text.toList).map String.ofList).filter (· ≠ "")

/-- An absolute path begins with a separator. -/
def isAbsolute (p : Path) : Bool := p.parts.rooted

/-- Whether two paths have the same components. -/
def same (p q : Path) : Bool := p.components == q.components

/-- The rank of a component by kind. -/
def Component.rank : Component → Nat
  | .root => 0
  | .here => 1
  | .up => 2
  | .name _ => 3

/-- The strict order of components: by kind, and two names by their text. -/
def Component.before : Component → Component → Bool
  | .name s, .name t => s < t
  | c, d => c.rank < d.rank

/-- The strict order of component lists: the first difference decides. -/
def listBefore : List Component → List Component → Bool
  | _, [] => false
  | [], _ :: _ => true
  | c :: cs, d :: ds => if c = d then listBefore cs ds else c.before d

/-- **The order of paths**: by components. -/
def before (p q : Path) : Bool := listBefore p.components q.components

/-- **A path taken from another**: an absolute `q` stands for itself, any other is appended with a
separator where one is missing. Joining the empty path therefore appends a separator. -/
def join (p q : Path) : Path :=
  if q.isAbsolute then q
  else if p.text.isEmpty || p.text.toList.getLast? = some '/' then ⟨p.text ++ q.text⟩
  else ⟨p.text ++ "/" ++ q.text⟩

/-- **The directory that a path lies in**: the path without its last component, spelled as before
and without separators at the end. The root and the empty path lie in none. -/
def parent? (p : Path) : Option Path :=
  let q := p.parts
  match (trimFillers q.body).reverse with
  | _ :: rest => some ({ q with body := trimFillers rest.reverse } : Parts).render
  | [] => if q.dotted then some ⟨""⟩ else none

/-- **The last component**, when it is a name. -/
def fileName? (p : Path) : Option String :=
  match p.components.getLast? with
  | some (.name s) => some s
  | _ => none

/-- The characters before and behind the last point of a name. -/
def splitAtLastPoint? (cs : List Char) : Option (List Char × List Char) :=
  let tail := (cs.reverse.takeWhile (· ≠ '.')).reverse
  if tail.length < cs.length then some (cs.take (cs.length - tail.length - 1), tail) else none

/-- A name as stem and extension. A point at the start of a name begins no extension. -/
def splitName (s : String) : String × Option String :=
  match splitAtLastPoint? s.toList with
  | some (c :: cs, ext) => (String.ofList (c :: cs), some (String.ofList ext))
  | _ => (s, none)

/-- **The file name without its extension.** -/
def stem? (p : Path) : Option String := p.fileName?.map fun s => (splitName s).1

/-- **The extension of the file name**, without its point. -/
def extension? (p : Path) : Option String := p.fileName?.bind fun s => (splitName s).2

/-- The path with the extension of its file name put in or replaced. -/
def withExtension (p : Path) (ext : String) : Path :=
  let q := p.parts
  match p.stem?, (trimFillers q.body).reverse with
  | some stem, _ :: rest => ({ q with body := rest.reverse ++ [stem ++ "." ++ ext] } : Parts).render
  | _, _ => p

/-- The path with one more segment. -/
def child (p : Path) (name : String) : Path := p.join ⟨name⟩

end Path

end RtlFlow
