import RtlFlow.Vhdl.Clause
import RtlFlow.Text.Lines
import RtlFlow.Text.Unicode.CaseMap

/-! # Scanning VHDL text

`HdlFacts.ofText` reads the facts off a VHDL text. Comments are dropped and the text is put into
lower case; then each kind of clause is looked for from left to right at the starts of words, and
behind a clause that was found the search goes on behind its end. -/

namespace RtlFlow.Vhdl

open RtlFlow.Text.Unicode

/-- The part of a line before the first two hyphens in a row. -/
def beforeComment : List Char → List Char
  | '-' :: '-' :: _ => []
  | c :: cs => c :: beforeComment cs
  | [] => []

/-- **The text without its comments**, which reach from two hyphens to the end of the line. -/
def stripComments (s : String) : String :=
  "\n".intercalate ((Text.linesOf s.toList).map fun line => String.ofList (beforeComment line))

/-- What a reader finds at the starts of words, from left to right; `inWord` tells whether a word
character stands before, and `found` holds what was found, last one first. -/
def findFrom {α : Type} (clause? : List Char → Option (α × List Char)) (found : List α) :
    Nat → Bool → List Char → List α
  | 0, _, _ => found.reverse
  | _ + 1, _, [] => found.reverse
  | fuel + 1, inWord, c :: cs =>
    if inWord || !isWordChar c then findFrom clause? found fuel (isWordChar c) cs
    else
      match clause? (c :: cs) with
      | some (a, rest) => findFrom clause? (a :: found) fuel false rest
      | none => findFrom clause? found fuel true cs

/-- **All that a reader finds in a text**, from left to right and without overlap. -/
def findAll {α : Type} (clause? : List Char → Option (α × List Char)) (cs : List Char) : List α :=
  findFrom clause? [] cs.length false cs

/-- The facts of a text in lower case and without comments. -/
def factsOf (cs : List Char) : HdlFacts where
  libraries := Table.textSet (findAll libraryClause? cs).flatten
  uses := UnitRef.setOf (findAll useClause? cs)
  packages := Table.textSet (findAll packageClause? cs)
  entities := Table.textSet (findAll entityClause? cs)
  instances := UnitRef.setOf ((findAll instantiation? cs).filterMap id)

end RtlFlow.Vhdl

namespace RtlFlow

/-- **The facts about a VHDL text.** -/
def HdlFacts.ofText (s : String) : HdlFacts :=
  Vhdl.factsOf (Text.Unicode.lowercase (Vhdl.stripComments s)).toList

end RtlFlow
