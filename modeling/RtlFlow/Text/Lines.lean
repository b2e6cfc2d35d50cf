/-! # Lines

A text is a sequence of lines, each ended by a line feed; a carriage return just before the line
feed belongs to the line's end. The last line may lack its end, and then a carriage return at its
end is part of it. -/

namespace RtlFlow.Text

/-- The pieces of a list of characters between the characters equal to `sep`, with every empty
piece kept. `piece` holds the current piece, last character first. -/
def piecesAt (sep : Char) (piece : List Char) : List Char → List (List Char)
  | [] => [piece.reverse]
  | c :: cs => if c = sep then piece.reverse :: piecesAt sep [] cs else piecesAt sep (c :: piece) cs

/-- A list of characters is cut into at least one piece. -/
theorem piecesAt_ne_nil (sep : Char) (piece cs : List Char) : piecesAt sep piece cs ≠ [] := by
  induction cs generalizing piece with
  | nil => simp [piecesAt]
  | cons c cs ih => unfold piecesAt; split <;> simp [ih]

/-- Drops one carriage return from the end of a line. -/
def dropReturn (line : List Char) : List Char :=
  if line.getLast? = some '\r' then line.dropLast else line

/-- **The lines of a list of characters.** The text behind the last line feed is a line only when
it is not empty. -/
def linesOf (cs : List Char) : List (List Char) :=
  let pieces := piecesAt '\n' [] cs
  let ended := pieces.dropLast.map dropReturn
  match pieces.getLast? with
  | some [] | none => ended
  | some rest => ended ++ [rest]

/-- **The lines of a text**, without their ends. -/
def lines (s : String) : List String := (linesOf s.toList).map String.ofList

end RtlFlow.Text
