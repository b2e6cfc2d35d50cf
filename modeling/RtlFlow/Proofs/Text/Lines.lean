import RtlFlow.Proofs.PathIdentity
import RtlFlow.Text.Lines

/-! # Lines of texts one behind the other

A text with all its lines ended may be put in front of another one, and its lines come in front of
the others (`lines_append`). Without the end of its last line this is false, since that line goes
on. So the lines of texts of whole lines, one behind the other, are those of each of them in turn
(`lines_join`). -/

namespace RtlFlow.Text

variable {line rest : List Char} {c : Char}

/-! ## Lines of a list of characters -/

/-- **A line with its end** is the first one. -/
theorem linesOf_append (h : '\n' ∉ line) :
    linesOf (line ++ '\n' :: rest) = dropReturn line :: linesOf rest := by
  have hsplit : piecesAt '\n' [] (line ++ '\n' :: rest) = line :: piecesAt '\n' [] rest := by
    rw [piecesAt_nil_eq_splitOn, piecesAt_nil_eq_splitOn]
    exact List.splitOnP_append_cons_of_forall_mem
      (fun c hc => by simpa using fun heq : c = '\n' => h (heq ▸ hc)) '\n' (by simp) rest
  have hne := piecesAt_ne_nil '\n' [] rest
  rw [linesOf, linesOf, hsplit, List.dropLast_cons_of_ne_nil hne, List.getLast?_cons_of_ne_nil hne]
  split <;> rfl

/-- A text without a line feed is one line, or none when it is empty. -/
theorem linesOf_of_notMem (h : '\n' ∉ line) :
    linesOf line = if line.isEmpty then [] else [line] := by
  rw [linesOf, piecesAt_nil_eq_splitOn, List.splitOn_eq_singleton h]
  cases line <;> rfl

/-- Only the empty text has no line. -/
theorem linesOf_ne_nil (h : rest ≠ []) : linesOf rest ≠ [] := by
  by_cases hmem : '\n' ∈ rest
  · obtain ⟨line, rest, rfl, hline⟩ := List.eq_append_cons_of_mem hmem
    rw [linesOf_append hline]
    exact List.cons_ne_nil _ _
  · rw [linesOf_of_notMem hmem, if_neg (by simpa using h)]
    exact List.cons_ne_nil _ _

theorem dropReturn_cons (h : line ≠ []) : dropReturn (c :: line) = c :: dropReturn line := by
  rw [dropReturn, dropReturn, List.getLast?_cons_of_ne_nil h]
  split
  · exact List.dropLast_cons_of_ne_nil h
  · rfl

/-- **Characters that end with a line feed** have their lines in front of those of what is behind
them. -/
theorem linesOf_append_of_ended (cs rest : List Char) (h : cs = [] ∨ cs.getLast? = some '\n') :
    linesOf (cs ++ rest) = linesOf cs ++ linesOf rest := by
  induction hlength : cs.length using Nat.strong_induction_on generalizing cs with
  | _ n ih =>
    rcases h with rfl | hlast
    · rfl
    · -- the first line is cut off, and what is left is shorter and ends in the same way
      obtain ⟨line, tail, rfl, hline⟩ := List.eq_append_cons_of_mem (List.mem_of_getLast? hlast)
      rw [List.getLast?_append_cons] at hlast
      have htail : tail = [] ∨ tail.getLast? = some '\n' := by
        rcases eq_or_ne tail [] with rfl | hne
        · exact Or.inl rfl
        · exact Or.inr (by rwa [List.getLast?_cons_of_ne_nil hne] at hlast)
      have hshorter : tail.length < n := by
        rw [← hlength, List.length_append, List.length_cons]
        omega
      rw [List.append_assoc, List.cons_append, linesOf_append hline, linesOf_append hline,
        ih _ hshorter tail htail rfl, List.cons_append]

/-! ## Texts of whole lines -/

/-- **A text of whole lines**: it is empty, or it ends with a line feed. -/
def WholeLines (s : String) : Prop := s = "" ∨ s.toList.getLast? = some '\n'

instance (s : String) : Decidable (WholeLines s) := inferInstanceAs (Decidable (_ ∨ _))

variable {s t : String}

theorem wholeLines_iff :
    WholeLines s ↔ s.toList = [] ∨ s.toList.getLast? = some '\n' := by
  rw [WholeLines, String.toList_eq_nil_iff]

theorem wholeLines_empty : WholeLines "" := Or.inl rfl

/-- A text with a line feed put behind it is one of whole lines. -/
theorem wholeLines_append_lineFeed (s : String) : WholeLines (s ++ "\n") :=
  Or.inr (by simp)

theorem WholeLines.append (hs : WholeLines s) (ht : WholeLines t) : WholeLines (s ++ t) := by
  rw [wholeLines_iff, String.toList_append, List.getLast?_append]
  rcases wholeLines_iff.mp ht with ht | ht
  · rw [ht, List.append_nil]
    exact wholeLines_iff.mp hs
  · exact Or.inr (by rw [ht, Option.some_or])

/-- **The lines of a text of whole lines stand in front** of those of what is put behind it. -/
theorem lines_append (h : WholeLines s) (t : String) : lines (s ++ t) = lines s ++ lines t := by
  rw [lines, lines, lines, String.toList_append, linesOf_append_of_ended _ _ (wholeLines_iff.mp h),
    List.map_append]

/-- **The lines of texts of whole lines** one behind the other are those of each of them in turn. -/
theorem lines_join {texts : List String} (h : ∀ s ∈ texts, WholeLines s) :
    lines (String.join texts) = texts.flatMap lines := by
  induction texts with
  | nil => rfl
  | cons s texts ih =>
    obtain ⟨hs, htexts⟩ := List.forall_mem_cons.mp h
    rw [String.join_cons, lines_append hs, ih htexts, List.flatMap_cons]

/-- The last line of a text goes on in what is put behind it, unless it is ended. -/
example : lines "a\nb" ++ lines "c\n" = ["a", "b", "c"] ∧ lines ("a\nb" ++ "c\n") = ["a", "bc"] := by
  decide +kernel

end RtlFlow.Text
