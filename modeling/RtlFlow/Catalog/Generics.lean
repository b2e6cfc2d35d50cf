import RtlFlow.Json.Basic
import RtlFlow.Number.Shortest

/-! # Generics

Generics are the named parameters of a design unit. A `Generics` maps names to values and keeps
the names in the order in which they were first given; giving a name again replaces its value
where it stands. Merging gives all the overrides to a base in turn. -/

namespace RtlFlow

open RtlFlow.Number

/-- **The type of a generic value.** -/
inductive GenericKind where
  | integer
  | boolean
  | real
  | string
  deriving DecidableEq, Repr, Inhabited

namespace GenericKind

/-- The name of a kind. -/
def keyword : GenericKind → String
  | .integer => "integer"
  | .boolean => "boolean"
  | .real => "real"
  | .string => "string"

/-- All kinds, in ascending order. -/
def all : List GenericKind := [.integer, .boolean, .real, .string]

/-- The kind with a keyword. -/
def ofKeyword? (s : String) : Option GenericKind := all.find? fun k => k.keyword == s

end GenericKind

/-- **A generic value.** -/
inductive GenericValue where
  /-- A truth value. -/
  | boolean (b : Bool)
  /-- A 64-bit integer. -/
  | integer (n : Int)
  /-- A floating point number. -/
  | real (x : Binary64)
  /-- A text. -/
  | string (s : String)
  deriving DecidableEq, Repr, Inhabited

namespace GenericValue

/-- The kind of a value. -/
def kind : GenericValue → GenericKind
  | .boolean _ => .boolean
  | .integer _ => .integer
  | .real _ => .real
  | .string _ => .string

/-- **The text of a value.** -/
def render : GenericValue → String
  | .boolean b => if b then "true" else "false"
  | .integer n => toString n
  | .real x => x.general
  | .string s => s

/-- Whether two values are equal as values of their type: a number that is none differs from
itself, and the two zeros are equal. -/
def same : GenericValue → GenericValue → Bool
  | .real x, .real y => x != .nan && (x == y || (x.isZero && y.isZero))
  | v, w => v == w

/-- **The value that a JSON value writes**: a truth value, a string, a signed 64-bit integer when
the numeral is one, and otherwise a floating point number. -/
def ofJson? : Json → Option GenericValue
  | .bool b => some (.boolean b)
  | .text s => some (.string s)
  | .number n =>
    match n.toInt? with
    | some i => some (.integer i)
    | none => n.toBinary64?.map .real
  | _ => none

end GenericValue

/-- **Named generic values**, names in the order in which they were first given. -/
structure Generics where
  /-- The names with their values. -/
  entries : List (String × GenericValue)
  deriving DecidableEq, Repr, Inhabited

namespace Generics

/-- No generics. -/
def empty : Generics := ⟨[]⟩

/-- Puts a value under a name in a list: in place where the name stands, else at the end. -/
def insertIn (name : String) (value : GenericValue) :
    List (String × GenericValue) → List (String × GenericValue)
  | [] => [(name, value)]
  | (n, v) :: rest =>
    if n = name then (n, value) :: rest else (n, v) :: insertIn name value rest

/-- **The generics with a value given to a name.** -/
def insert (g : Generics) (name : String) (value : GenericValue) : Generics :=
  ⟨insertIn name value g.entries⟩

/-- The generics given by a list of names and values in turn. -/
def ofList (pairs : List (String × GenericValue)) : Generics :=
  pairs.foldl (fun g (n, v) => g.insert n v) empty

/-- **The value of a name.** -/
def get? (g : Generics) (name : String) : Option GenericValue :=
  (g.entries.find? fun (n, _) => n == name).map (·.2)

/-- The number of names. -/
def size (g : Generics) : Nat := g.entries.length

/-- Whether there is no name. -/
def isEmpty (g : Generics) : Bool := g.entries.isEmpty

/-- **The generics with others on top**, whose values win. -/
def mergedWith (g overrides : Generics) : Generics :=
  overrides.entries.foldl (fun g (n, v) => g.insert n v) g

/-- Whether two lists of generics are equal, values compared as values of their type. -/
def same (g h : Generics) : Bool :=
  g.size == h.size &&
    (g.entries.zip h.entries).all fun ((n, v), (m, w)) => n == m && v.same w

end Generics

end RtlFlow
