import RtlFlow.Text.Blank
import RtlFlow.Text.Search
import RtlFlow.Text.Unicode.Property
import RtlFlow.Vhdl.Facts

/-! # Clauses of VHDL text

Readers for the clauses that tell what a file needs and provides, on text in lower case. A reader
starts at the first character of a word and answers what the clause says with the text behind it,
or nothing when no such clause starts there. Blanks may stand between any two tokens. -/

namespace RtlFlow.Vhdl

open RtlFlow.Text.Unicode

/-- The text behind the blanks at its start. -/
def skipBlanks (cs : List Char) : List Char := cs.dropWhile Text.isBlank

/-- The text behind the blanks at its start, of which there must be one. -/
def skipBlanks1? : List Char → Option (List Char)
  | c :: cs => if Text.isBlank c then some (skipBlanks cs) else none
  | [] => none

/-- The word at the start of the text, and the rest. -/
def takeWord? (cs : List Char) : Option (List Char × List Char) :=
  match cs.takeWhile isWordChar with
  | [] => none
  | w => some (w, cs.dropWhile isWordChar)

/-- The text behind a sign. -/
def takeSign? (sign : Char) : List Char → Option (List Char)
  | c :: cs => if c = sign then some cs else none
  | [] => none

/-- The text behind a keyword with blanks after it. -/
def takeKeyword? (keyword : String) (cs : List Char) : Option (List Char) :=
  (Text.dropLead? keyword.toList cs).bind skipBlanks1?

/-- The text behind a keyword after which no word character stands. -/
def takeLastKeyword? (keyword : String) (cs : List Char) : Option (List Char) := do
  let rest ← Text.dropLead? keyword.toList cs
  match rest with
  | c :: _ => if isWordChar c then none else some rest
  | [] => some rest

/-- The names behind a name: each follows a comma. `fuel` bounds their number. -/
def takeMoreNames : Nat → List Char → List String × List Char
  | 0, cs => ([], cs)
  | fuel + 1, cs =>
    match takeSign? ',' (skipBlanks cs) with
    | none => ([], cs)
    | some rest =>
      match takeWord? (skipBlanks rest) with
      | none => ([], cs)
      | some (w, rest) =>
        let (names, rest) := takeMoreNames fuel rest
        (String.ofList w :: names, rest)

/-- **A library clause**: `library a, b;`. -/
def libraryClause? (cs : List Char) : Option (List String × List Char) := do
  let rest ← takeKeyword? "library" cs
  let (w, rest) ← takeWord? rest
  let (names, rest) := takeMoreNames rest.length rest
  let rest ← takeSign? ';' (skipBlanks rest)
  return (String.ofList w :: names, rest)

/-- The text behind a point and a word, where they stand. -/
def skipSelection (cs : List Char) : List Char :=
  match (takeSign? '.' (skipBlanks cs)).bind fun rest => takeWord? (skipBlanks rest) with
  | some (_, rest) => rest
  | none => cs

/-- **A use clause**: `use library.unit;` or `use library.unit.name;`. -/
def useClause? (cs : List Char) : Option (UnitRef × List Char) := do
  let rest ← takeKeyword? "use" cs
  let (library, rest) ← takeWord? rest
  let rest ← takeSign? '.' (skipBlanks rest)
  let (unit, rest) ← takeWord? (skipBlanks rest)
  let rest ← takeSign? ';' (skipBlanks (skipSelection rest))
  return (⟨some (String.ofList library), String.ofList unit⟩, rest)

/-- A declaration that starts with a keyword: `keyword name is`. -/
def declaration? (keyword : String) (cs : List Char) : Option (String × List Char) := do
  let rest ← takeKeyword? keyword cs
  let (name, rest) ← takeWord? rest
  let rest ← skipBlanks1? rest
  let rest ← takeLastKeyword? "is" rest
  return (String.ofList name, rest)

/-- **A package declaration**: `package name is`. -/
def packageClause? (cs : List Char) : Option (String × List Char) := declaration? "package" cs

/-- **An entity declaration**: `entity name is`. -/
def entityClause? (cs : List Char) : Option (String × List Char) := declaration? "entity" cs

/-- The text behind `generic map` or `port map`. -/
def takeMap? (cs : List Char) : Option (List Char) := do
  let rest ← (takeKeyword? "generic" cs).orElse fun _ => takeKeyword? "port" cs
  takeLastKeyword? "map" rest

/-- The text behind an architecture name in parentheses. -/
def takeArchitecture? (cs : List Char) : Option (List Char) := do
  let rest ← takeSign? '(' cs
  let (_, rest) ← takeWord? (skipBlanks rest)
  let rest ← takeSign? ')' (skipBlanks rest)
  return skipBlanks rest

/-- The name of an instantiated unit with the map behind it. A word that ends in `generic` or
`port` may be the name and that keyword written together. -/
def instantiatedUnit? (cs : List Char) : Option (String × List Char) := do
  let (w, rest) ← takeWord? cs
  let behind := skipBlanks rest
  let apart := ((takeArchitecture? behind).bind takeMap?).orElse fun _ => takeMap? behind
  match apart with
  | some rest => return (String.ofList w, rest)
  | none =>
    let behindMap ← (skipBlanks1? rest).bind (takeLastKeyword? "map")
    let name ← ["generic", "port"].findSome? fun k =>
      let tail := k.toList
      if tail.length < w.length ∧ tail.isSuffixOf w then some (w.take (w.length - tail.length))
      else none
    return (String.ofList name, behindMap)

/-- A reference to an instantiated unit, qualified or not, with the map behind it. -/
def instantiated? (cs : List Char) : Option (UnitRef × List Char) :=
  let qualified : Option (UnitRef × List Char) := do
    let (library, rest) ← takeWord? cs
    let rest ← takeSign? '.' (skipBlanks rest)
    let (unit, rest) ← instantiatedUnit? (skipBlanks rest)
    return (⟨some (String.ofList library), unit⟩, rest)
  qualified.orElse fun _ => (instantiatedUnit? cs).map fun (unit, rest) => (⟨none, unit⟩, rest)

/-- The words that start a declaration or a statement and so name no instantiated unit. -/
def reservedUnits : List String := ["entity", "component", "is", "block", "process"]

/-- **An instantiation**: `label : entity library.unit(architecture) port map`, where `entity`, the
library and the architecture may be missing. The answer has no reference where a reserved word
stands in the place of a bare unit name. -/
def instantiation? (cs : List Char) : Option (Option UnitRef × List Char) := do
  let (_, rest) ← takeWord? cs
  let rest ← takeSign? ':' (skipBlanks rest)
  let rest := skipBlanks rest
  match (takeKeyword? "entity" rest).bind instantiated? with
  | some (r, rest) => return (some r, rest)
  | none =>
    let (r, rest) ← instantiated? rest
    return (if r.library.isNone && reservedUnits.contains r.unit then none else some r, rest)

end RtlFlow.Vhdl
