/-! # Tables of characters

A property of characters is constant over long runs of code points, so a table lists where each
run begins. `RunTable.at?` finds the run that holds a code point by bisection. Tables are written
as text: blank-separated items, code points in upper-case hexadecimal. `sectionsOf` reads a table
of ranges that stand under headings. -/

namespace RtlFlow.Text.Unicode

/-- The value of an upper-case hexadecimal digit. -/
def hexDigitValue (c : Char) : Nat :=
  if c.isDigit then c.toNat - '0'.toNat else c.toNat - 'A'.toNat + 10

/-- The number that hexadecimal digits write. -/
def hexValue (cs : List Char) : Nat := cs.foldl (fun n c => 16 * n + hexDigitValue c) 0

/-! ### Tables of runs -/

/-- **A table of runs**: the first code point of each run with the value that holds throughout
the run, in ascending order. -/
structure RunTable (α : Type) where
  /-- Where each run begins, and its value. -/
  runs : Array (Nat × α)

/-- The number of runs among `lo, …, hi - 1` and before that begin at `n` or below, when all the
runs before `lo` do and none from `hi` on does. -/
def RunTable.bisect {α : Type} (t : RunTable α) (n lo hi : Nat) : Nat :=
  if lo < hi then
    let mid := (lo + hi) / 2
    match t.runs[mid]? with
    | some (start, _) => if start ≤ n then t.bisect n (mid + 1) hi else t.bisect n lo mid
    | none => t.bisect n lo mid
  else lo
termination_by hi - lo

/-- **The value at a code point**: that of the last run that begins at or below it. -/
def RunTable.at? {α : Type} (t : RunTable α) (n : Nat) : Option α :=
  match t.bisect n 0 t.runs.size with
  | 0 => none
  | k + 1 => t.runs[k]?.map (·.2)

/-- The runs of a list of starts as ranges, each with its value; the last run ends at `last`. -/
def rangesFrom {α : Type} (last : Nat) : List (Nat × α) → List (α × Nat × Nat)
  | [] => []
  | [(a, v)] => [(v, a, last)]
  | (a, v) :: (b, w) :: rest => (v, a, b - 1) :: rangesFrom last ((b, w) :: rest)

/-! ### Tables of ranges -/

/-- The blank-separated items of the lines of a table. -/
def itemsOf (lines : List String) : List String := lines.flatMap (·.splitOn " ")

/-- The range that an item of a table writes: two code points with a hyphen between them, or a
single one. -/
def rangeOf (item : String) : Nat × Nat :=
  match item.splitOn "-" with
  | [a, b] => (hexValue a.toList, hexValue b.toList)
  | _ => (hexValue item.toList, hexValue item.toList)

/-- **A section of a table**: headings, and the ranges below them. -/
structure TableSection where
  /-- The headings. -/
  headings : List String
  /-- The ranges, in any order. -/
  ranges : List (Nat × Nat)
  deriving Repr, Inhabited

/-- Whether an item of a table is a heading: it holds a small letter or a point. -/
def isHeading (item : String) : Bool := item.toList.any fun c => c.isLower || c = '.'

/-- Reads the items of a table into sections, of which the last read stands first. A heading
behind a range opens a section, and headings in a row belong to one. -/
def sectionsFrom : List TableSection → List String → List TableSection
  | done, [] => done
  | [], item :: items =>
    sectionsFrom [if isHeading item then ⟨[item], []⟩ else ⟨[], [rangeOf item]⟩] items
  | s :: done, item :: items =>
    if isHeading item then
      if s.ranges.isEmpty then sectionsFrom ({ s with headings := item :: s.headings } :: done) items
      else sectionsFrom (⟨[item], []⟩ :: s :: done) items
    else sectionsFrom ({ s with ranges := rangeOf item :: s.ranges } :: done) items

/-- **The sections of a table** that is written as text, in order. -/
def sectionsOf (lines : List String) : List TableSection :=
  (sectionsFrom [] (itemsOf lines)).reverse

end RtlFlow.Text.Unicode
