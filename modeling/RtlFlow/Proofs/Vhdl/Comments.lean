import RtlFlow.Proofs.Text.Lines
import RtlFlow.Vhdl.Scan

/-! # Dropping comments from left to right

The comments of a text are dropped line by line. The same text is read off in one pass over the
characters (`codeFrom`), which keeps what stands outside of comments and makes every line end a line
feed. -/

namespace RtlFlow.Vhdl

open RtlFlow.Text

/-- **The text without its comments**, from left to right; `inComment` tells whether a comment was
begun on the line. A line feed at the end of the text is no line of its own. -/
def codeFrom (inComment : Bool) : List Char → List Char
  | [] => []
  | c :: cs =>
    if c = '\n' then if cs.isEmpty then [] else '\n' :: codeFrom false cs
    else if inComment then codeFrom true cs
    else if c = '-' ∧ cs.head? = some '-' then codeFrom true cs
    else if c = '\r' ∧ cs.head? = some '\n' then codeFrom false cs
    else c :: codeFrom false cs

/-! ## Lines -/

variable {line rest : List Char} {c : Char}

/-- The part of a line before a comment has a character when no comment begins there. -/
theorem beforeComment_cons (h : ¬ (c = '-' ∧ line.head? = some '-')) :
    beforeComment (c :: line) = c :: beforeComment line := by
  rw [beforeComment]
  rintro tail rfl rfl
  exact h ⟨rfl, rfl⟩

/-- A line in which a comment begins at once. -/
theorem beforeComment_dropReturn_hyphens :
    beforeComment (dropReturn ('-' :: '-' :: line)) = [] := by
  rw [dropReturn_cons (List.cons_ne_nil _ _)]
  cases line with
  | nil => rfl
  | cons c line =>
    rw [dropReturn_cons (List.cons_ne_nil _ _)]
    rfl

/-! ## Lines from left to right -/

/-- What follows a line with its end. -/
def codeBehind (rest : List Char) : List Char :=
  if rest.isEmpty then [] else '\n' :: codeFrom false rest

theorem codeFrom_lineFeed (inComment : Bool) :
    codeFrom inComment ('\n' :: rest) = codeBehind rest := by
  rw [codeFrom, if_pos rfl, codeBehind]

/-- Inside of a comment all is passed up to the end of the line. -/
theorem codeFrom_true_pass (h : '\n' ∉ line) (rest : List Char) :
    codeFrom true (line ++ rest) = codeFrom true rest := by
  induction line with
  | nil => rfl
  | cons c line ih =>
    rw [List.mem_cons, not_or] at h
    rw [List.cons_append, codeFrom, if_neg (Ne.symm h.1), if_pos rfl, ih h.2]

theorem codeFrom_true_append (h : '\n' ∉ line) :
    codeFrom true (line ++ '\n' :: rest) = codeBehind rest := by
  rw [codeFrom_true_pass h, codeFrom_lineFeed]

theorem codeFrom_true_of_notMem (h : '\n' ∉ line) : codeFrom true line = [] := by
  rw [← line.append_nil, codeFrom_true_pass h, codeFrom]

theorem codeFrom_false_append (h : '\n' ∉ line) :
    codeFrom false (line ++ '\n' :: rest) =
      beforeComment (dropReturn line) ++ codeBehind rest := by
  induction line with
  | nil => exact codeFrom_lineFeed false
  | cons c line ih =>
    rw [List.mem_cons, not_or] at h
    rw [List.cons_append, codeFrom, if_neg (Ne.symm h.1), if_neg (by simp)]
    by_cases hcomment : c = '-' ∧ (line ++ '\n' :: rest).head? = some '-'
    · rw [if_pos hcomment, codeFrom_true_append h.2]
      obtain ⟨rfl, hhead⟩ := hcomment
      cases line with
      | nil => simp at hhead
      | cons d line =>
        obtain rfl : d = '-' := by simpa using hhead
        rw [beforeComment_dropReturn_hyphens, List.nil_append]
    rw [if_neg hcomment]
    by_cases hreturn : c = '\r' ∧ (line ++ '\n' :: rest).head? = some '\n'
    · -- the carriage return belongs to the end of the line
      rw [if_pos hreturn]
      obtain ⟨rfl, hhead⟩ := hreturn
      cases line with
      | nil => exact codeFrom_lineFeed false
      | cons d line =>
        obtain rfl : d = '\n' := by simpa using hhead
        exact absurd (List.mem_cons_self ..) h.2
    rw [if_neg hreturn, ih h.2]
    cases line with
    | nil =>
      have hkept : dropReturn [c] = [c] := if_neg (by simpa using hreturn)
      rw [hkept, beforeComment_cons (by simp)]
      rfl
    | cons d line =>
      rw [dropReturn_cons (List.cons_ne_nil _ _), beforeComment_cons, List.cons_append]
      rintro ⟨rfl, hhead⟩
      refine hcomment ⟨rfl, ?_⟩
      cases line with
      | nil =>
        rw [dropReturn] at hhead
        split at hhead
        · cases hhead
        · exact hhead
      | cons e line =>
        rw [dropReturn_cons (List.cons_ne_nil _ _)] at hhead
        exact hhead

theorem codeFrom_false_of_notMem (h : '\n' ∉ line) : codeFrom false line = beforeComment line := by
  induction line with
  | nil => rfl
  | cons c line ih =>
    rw [List.mem_cons, not_or] at h
    rw [codeFrom, if_neg (Ne.symm h.1), if_neg (by simp)]
    by_cases hcomment : c = '-' ∧ line.head? = some '-'
    · rw [if_pos hcomment, codeFrom_true_of_notMem h.2]
      obtain ⟨rfl, hhead⟩ := hcomment
      cases line with
      | nil => cases hhead
      | cons d line =>
        obtain rfl : d = '-' := by simpa using hhead
        rfl
    · have hreturn : ¬ (c = '\r' ∧ line.head? = some '\n') := fun ⟨_, hhead⟩ =>
        h.2 (List.mem_of_mem_head? hhead)
      rw [if_neg hcomment, if_neg hreturn, beforeComment_cons hcomment, ih h.2]

/-- **Comments are dropped from left to right.** -/
theorem toList_stripComments (s : String) : (stripComments s).toList = codeFrom false s.toList := by
  have hlines : ∀ n, ∀ cs : List Char, cs.length ≤ n →
      ['\n'].intercalate ((linesOf cs).map beforeComment) = codeFrom false cs := by
    intro n
    induction n with
    | zero =>
      intro cs hcs
      obtain rfl := List.length_eq_zero_iff.mp (Nat.le_zero.mp hcs)
      rfl
    | succ n ih =>
      intro cs hcs
      by_cases hmem : '\n' ∈ cs
      · obtain ⟨line, rest, rfl, hline⟩ := List.eq_append_cons_of_mem hmem
        rw [List.length_append, List.length_cons] at hcs
        have hrest := ih rest (by omega)
        rw [linesOf_append hline, List.map_cons, codeFrom_false_append hline, codeBehind, ← hrest]
        by_cases hnil : rest = []
        · subst hnil
          simp [linesOf_of_notMem]
        · obtain ⟨next, others, hnext⟩ := List.exists_cons_of_ne_nil (linesOf_ne_nil hnil)
          rw [if_neg (by simpa using hnil), hnext]
          simp
      · rw [linesOf_of_notMem hmem, codeFrom_false_of_notMem hmem]
        cases cs <;> simp [beforeComment]
  rw [← hlines _ _ le_rfl, stripComments, String.toList_intercalate, List.map_map]
  congr 2
  funext line
  simp

end RtlFlow.Vhdl
