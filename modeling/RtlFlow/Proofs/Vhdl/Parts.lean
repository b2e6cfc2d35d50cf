import RtlFlow.Proofs.Vhdl.Layout

/-! # A part of a text

What a part of a text writes stands among the tokens of the text (`exists_tokens_part`), when it
does not lie in a comment that was begun in front of it, and no word reaches into it. Comments that
end in front of it, or in it, and those behind it do not matter. -/

namespace RtlFlow.Vhdl

open RtlFlow.Text
open RtlFlow.Text.Unicode

/-- **A comment is open at the end of a text**: two hyphens stand there behind which no line ends.
-/
def InComment (front : List Char) : Prop :=
  ∃ before comment, front = before ++ '-' :: '-' :: comment ∧ '\n' ∉ comment

/-- **No word reaches from a text into the part behind it**: there is nothing in front, or it ends
with a blank or a sign that is no hyphen, or the part begins with a blank. -/
def Apart (front cs : List Char) : Prop :=
  front = [] ∨ (∃ c ∈ front.getLast?, EndsWord c ∧ c ≠ '-') ∨ ∃ c ∈ cs.head?, isBlank c = true

variable {c : Char} {front cs back : List Char} {ts : List Token}

/-! ## Open comments -/

theorem InComment.cons (h : InComment front) (c : Char) : InComment (c :: front) := by
  obtain ⟨before, comment, rfl, hcomment⟩ := h
  exact ⟨c :: before, comment, rfl, hcomment⟩

/-- A comment stays open until its line ends. -/
theorem InComment.append (h : InComment front) (hc : c ≠ '\n') : InComment (front ++ [c]) := by
  obtain ⟨before, comment, rfl, hcomment⟩ := h
  refine ⟨before, comment ++ [c], by simp, ?_⟩
  simpa [hcomment] using hc.symm

/-- Without two hyphens in a row there is no comment. -/
theorem not_inComment_of_not_infix (h : ¬ ['-', '-'] <:+: front) : ¬ InComment front := by
  rintro ⟨before, comment, rfl, -⟩
  exact h ⟨before, comment, by simp⟩

/-- No comment is open behind a line feed. -/
theorem not_inComment_lineFeed (init : List Char) : ¬ InComment (init ++ ['\n']) := by
  rintro ⟨before, comment, heq, hcomment⟩
  have hlast : '\n' ∈ ('-' :: '-' :: comment).getLast? := by
    rw [← List.getLast?_append_of_ne_nil before (List.cons_ne_nil _ _), ← heq]
    simp
  exact hcomment (by simpa using List.mem_of_getLast? hlast)

/-! ## The text in front -/

/-- **What is in front of a part stays in front of it**, and the part is read as if it stood alone:
the comment that is open in front of it, if there is one, ends with the line end at which the part
begins. -/
theorem exists_codeFrom_append (inComment : Bool)
    (hopen : inComment = true → '\n' ∈ front ∨ cs.head? = some '\n')
    (hcode : InComment front → cs.head? = some '\n') (hhyphen : cs.head? ≠ some '-') :
    ∃ front', codeFrom inComment (front ++ cs) = front' ++ codeFrom false cs := by
  induction front generalizing inComment with
  | nil =>
    refine ⟨[], ?_⟩
    cases inComment with
    | false => rfl
    | true =>
      obtain ⟨rest, rfl⟩ : ∃ rest, cs = '\n' :: rest := by
        have hhead := (hopen rfl).resolve_left List.not_mem_nil
        exact List.head?_eq_some_iff.mp hhead
      rw [List.nil_append, List.nil_append, codeFrom_lineFeed, codeFrom_lineFeed]
  | cons c front ih =>
    have hrest : InComment front → cs.head? = some '\n' := fun h => hcode (h.cons c)
    rw [List.cons_append, codeFrom]
    split
    · split
      · -- the line feed at the very end of the text is no line of its own
        rename_i hempty
        rw [List.isEmpty_iff, List.append_eq_nil_iff] at hempty
        exact ⟨[], by rw [hempty.2]; rfl⟩
      · obtain ⟨front', heq⟩ := ih false (by simp) hrest
        exact ⟨'\n' :: front', by rw [heq, List.cons_append]⟩
    · rename_i hfeed
      split
      · -- inside of a comment, which goes on
        rename_i hinside
        refine ih true (fun _ => ?_) hrest
        exact (hopen hinside).imp_left fun h => (List.mem_cons.mp h).resolve_left (Ne.symm hfeed)
      · split
        · -- a comment begins, and its second hyphen is not the first character of the part
          rename_i hcomment
          obtain ⟨rfl, hhead⟩ := hcomment
          refine ih true (fun _ => ?_) hrest
          cases front with
          | nil => exact absurd hhead hhyphen
          | cons d front =>
            obtain rfl : d = '-' := by simpa using hhead
            by_cases hfeed' : '\n' ∈ front
            · exact Or.inl (List.mem_cons_of_mem _ hfeed')
            · exact Or.inr (hcode ⟨[], front, rfl, hfeed'⟩)
        · obtain ⟨front', heq⟩ := ih false (by simp) hrest
          split
          · exact ⟨front', heq⟩
          · exact ⟨c :: front', by rw [heq, List.cons_append]⟩

/-- **The tokens of a part** that begins with what ends a word stand among those of the text. -/
theorem exists_tokens_behind (hcode : InComment front → cs.head? = some '\n')
    (hhead : ∀ c ∈ cs.head?, EndsWord c ∧ c ≠ '-') (h : Written back ts cs) :
    ∃ before after, tokens (scanned [] (front ++ cs)) =
      before ++ (ts ++ tokens (scanned after back)) := by
  have hhyphen : cs.head? ≠ some '-' := fun heq => (hhead _ heq).2 rfl
  obtain ⟨code, hcodeFrom⟩ := exists_codeFrom_append false (by simp) hcode hhyphen
  obtain ⟨lower, before, hlower⟩ := exists_lowerFrom_append [] code (codeFrom false cs)
  obtain ⟨after, htokens⟩ := h.tokens_eq before
  have hnot := head?_scanned (fun c hc => (hhead c hc).1) before
  rw [scanned, hcodeFrom, hlower, ← scanned]
  refine ⟨tokens lower, after, ?_⟩
  rw [← htokens]
  cases hscanned : scanned before cs with
  | nil => simp [tokens]
  | cons c rest => exact tokens_append_of_not_isWordChar _ (hnot c (by simp [hscanned]))

/-! ## The tokens of a part -/

/-- **The tokens that a part of a text writes stand among those of the text**, and behind them come
those of what is behind the part. -/
theorem exists_tokens_part (hcode : ¬ InComment front) (hapart : Apart front cs)
    (h : Written back ts cs) :
    ∃ before after, tokens (scanned [] (front ++ cs)) =
      before ++ (ts ++ tokens (scanned after back)) := by
  rcases hapart with rfl | ⟨c, hlast, hends, hhyphen⟩ | ⟨c, hc, hblank⟩
  · obtain ⟨after, htokens⟩ := h.tokens_eq []
    exact ⟨[], after, htokens⟩
  · -- the last character in front is read with the part
    obtain ⟨init, rfl⟩ := List.getLast?_eq_some_iff.mp hlast
    have hopen : InComment init → (c :: cs).head? = some '\n' := by
      intro hinit
      by_contra hfeed
      exact hcode (hinit.append fun heq => hfeed (congrArg some heq))
    have hhead : ∀ d ∈ (c :: cs).head?, EndsWord d ∧ d ≠ '-' := fun d hd =>
      Option.some.inj hd ▸ ⟨hends, hhyphen⟩
    rw [List.append_assoc]
    by_cases hblank : isBlank c = true
    · exact exists_tokens_behind hopen hhead (.blank hblank h)
    · have hsign : IsSign c := by
        obtain ⟨hascii, hword⟩ := hends.resolve_left hblank
        exact ⟨hascii, hword, by simpa using hblank, hhyphen⟩
      obtain ⟨before, after, htokens⟩ := exists_tokens_behind hopen hhead (.sign hsign h)
      refine ⟨before ++ [.sign c], after, ?_⟩
      rw [List.singleton_append, htokens]
      simp
  · refine exists_tokens_behind (fun hinside => absurd hinside hcode) (fun d hd => ?_) h
    obtain rfl : d = c := Option.some.inj (hd.symm.trans hc)
    refine ⟨Or.inl hblank, ?_⟩
    rintro rfl
    exact absurd hblank (by decide)

end RtlFlow.Vhdl
