import RtlFlow.Proofs.Text.Replacement
import RtlFlow.Vhdl.Clause
import Mathlib.Data.List.TakeWhile

/-! # The tokens of a text

A text in lower case and without comments is a row of words and signs (`tokens`), and blanks only
keep words apart. A word at the front of a text is told with what is left behind it (`Leads`), and
the readers of words and keywords are read off from that. -/

namespace RtlFlow.Vhdl

open RtlFlow.Text
open RtlFlow.Text.Unicode

/-- **A token of a text.** -/
inductive Token where
  /-- A word. -/
  | word (w : List Char)
  /-- A character that is neither part of a word nor a blank. -/
  | sign (c : Char)
  deriving DecidableEq, Repr

/-- **The tokens of a text.** -/
def tokens : List Char → List Token
  | [] => []
  | c :: cs =>
    if isWordChar c then .word (c :: cs.takeWhile isWordChar) :: tokens (cs.dropWhile isWordChar)
    else if isBlank c then tokens cs
    else .sign c :: tokens cs
termination_by cs => cs.length
decreasing_by
  · exact Nat.lt_succ_of_le (List.length_dropWhile_le ..)
  · exact Nat.lt_succ_self _
  · exact Nat.lt_succ_self _

variable {c : Char} {cs w x y rest : List Char}

/-- No blank is part of a word. -/
theorem isWordChar_of_isBlank (h : isBlank c = true) : isWordChar c = false := by
  by_cases hc : c.toNat < 128
  · have hcode : c.toNat ∈ [9, 10, 11, 12, 13, 32] := by
      simp only [isBlank, Bool.or_eq_true, Bool.and_eq_true, decide_eq_true_eq, beq_iff_eq] at h
      simp only [List.mem_cons, List.not_mem_nil, or_false]
      omega
    have hall : ∀ n ∈ [9, 10, 11, 12, 13, 32], isWordChar (Char.ofNat n) = false := by
      decide +kernel
    rw [← Char.ofNat_toNat c]
    exact hall _ hcode
  · rw [isWordChar, if_neg hc, h, Bool.not_true, Bool.false_and]

theorem tokens_word (h : isWordChar c = true) : tokens (c :: cs) =
    .word (c :: cs.takeWhile isWordChar) :: tokens (cs.dropWhile isWordChar) := by
  rw [tokens, if_pos h]

theorem tokens_blank (h : isBlank c = true) : tokens (c :: cs) = tokens cs := by
  rw [tokens, if_neg (by simp [isWordChar_of_isBlank h]), if_pos h]

theorem tokens_sign (hword : isWordChar c = false) (hblank : isBlank c = false) :
    tokens (c :: cs) = .sign c :: tokens cs := by
  rw [tokens, if_neg (by simp [hword]), if_neg (by simp [hblank])]

theorem tokens_skipBlanks (cs : List Char) : tokens (skipBlanks cs) = tokens cs := by
  induction cs with
  | nil => rfl
  | cons c cs ih =>
    by_cases h : isBlank c = true
    · rw [skipBlanks, List.dropWhile_cons_of_pos h, tokens_blank h]
      exact ih
    · rw [skipBlanks, List.dropWhile_cons_of_neg h]

/-- **The word at the front of a text and what is left.** The word may be empty. -/
structure Leads (w rest cs : List Char) : Prop where
  /-- They make up the text. -/
  eq : cs = w ++ rest
  /-- The word has only characters of words. -/
  word : ∀ c ∈ w, isWordChar c = true
  /-- What is left does not go on with the word. -/
  ends : ∀ c ∈ rest.head?, isWordChar c = false

theorem exists_leads (cs : List Char) : ∃ w rest, Leads w rest cs := by
  refine ⟨cs.takeWhile isWordChar, cs.dropWhile isWordChar,
    List.takeWhile_append_dropWhile.symm, fun c hc => List.mem_takeWhile_imp hc, fun c hc => ?_⟩
  have hnot := List.head?_dropWhile_not isWordChar cs
  rw [Option.mem_def.mp hc] at hnot
  simpa using hnot

namespace Leads

theorem takeWhile (h : Leads w rest cs) : cs.takeWhile isWordChar = w := by
  have hnone : rest.takeWhile isWordChar = [] := by
    cases rest with
    | nil => rfl
    | cons c rest => simp [h.ends c rfl]
  rw [h.eq, List.takeWhile_append_of_pos h.word, hnone, List.append_nil]

theorem dropWhile (h : Leads w rest cs) : cs.dropWhile isWordChar = rest := by
  have hall : rest.dropWhile isWordChar = rest := by
    cases rest with
    | nil => rfl
    | cons c rest => simp [h.ends c rfl]
  rw [h.eq, List.dropWhile_append_of_pos h.word, hall]

/-- **A word in front of what is no part of it** is a token. -/
theorem tokens_eq (h : Leads w rest cs) (hne : w ≠ []) : tokens cs = .word w :: tokens rest := by
  have hfirst := h.takeWhile
  have hrest := h.dropWhile
  cases cs with
  | nil => exact absurd hfirst.symm hne
  | cons c cs =>
    by_cases hc : isWordChar c = true
    · rw [List.takeWhile_cons_of_pos hc] at hfirst
      rw [List.dropWhile_cons_of_pos hc] at hrest
      rw [tokens_word hc, hfirst, hrest]
    · rw [List.takeWhile_cons_of_neg hc] at hfirst
      exact absurd hfirst.symm hne

/-- Behind the word the text may go on in any way in which no word does. -/
theorem append (h : Leads w rest cs) (hc : isWordChar c = false) (more : List Char) :
    Leads w (rest ++ c :: more) (cs ++ c :: more) where
  eq := by rw [h.eq, List.append_assoc]
  word := h.word
  ends := by
    cases rest with
    | nil => simpa using hc
    | cons d rest => simpa using h.ends d rfl

end Leads

/-- **A text is cut between its tokens** where a character stands that is part of no word. -/
theorem tokens_append_of_not_isWordChar (x : List Char) (h : isWordChar c = false) :
    tokens (x ++ c :: cs) = tokens x ++ tokens (c :: cs) := by
  induction hn : x.length using Nat.strong_induction_on generalizing x with
  | _ n ih =>
    subst hn
    obtain ⟨w, rest, hleads⟩ := exists_leads x
    by_cases hw : w = []
    · obtain rfl : x = rest := by simpa [hw] using hleads.eq
      cases x with
      | nil => simp [tokens]
      | cons d x =>
        have hd := hleads.ends d rfl
        have hrest := ih x.length (by simp) x rfl
        by_cases hblank : isBlank d = true
        · rw [List.cons_append, tokens_blank hblank, tokens_blank hblank, hrest]
        · rw [Bool.not_eq_true] at hblank
          rw [List.cons_append, tokens_sign hd hblank, tokens_sign hd hblank, hrest,
            List.cons_append]
    · have hlength : rest.length < x.length := by
        have := List.length_pos_iff.mpr hw
        rw [hleads.eq, List.length_append]
        omega
      rw [(hleads.append h cs).tokens_eq hw, hleads.tokens_eq hw, ih rest.length hlength rest rfl,
        List.cons_append]

/-! ## Words and keywords on characters -/

theorem Leads.takeWord?_eq (h : Leads w rest cs) :
    takeWord? cs = if w = [] then none else some (w, rest) := by
  rw [takeWord?, h.takeWhile, h.dropWhile]
  cases w <;> rfl

/-- A keyword stands at the front of a text when it is the first part of the word there. -/
theorem Leads.dropLead?_eq (h : Leads w rest cs) {k : String}
    (hk : ∀ c ∈ k.toList, isWordChar c = true) :
    (w = k.toList ∧ dropLead? k.toList cs = some rest) ∨
      (w ≠ k.toList ∧ ∀ cs', dropLead? k.toList cs = some cs' →
        ∃ c ∈ cs'.head?, isWordChar c = true) := by
  by_cases hw : w = k.toList
  · exact Or.inl ⟨hw, dropLead?_eq_some_iff.mpr (hw ▸ h.eq)⟩
  · refine Or.inr ⟨hw, fun cs' hcs' => ?_⟩
    by_contra hnot
    push Not at hnot
    have hleads : Leads k.toList cs' cs :=
      ⟨dropLead?_eq_some_iff.mp hcs', hk, fun c hc => by simpa using hnot c hc⟩
    exact hw (h.takeWhile.symm.trans hleads.takeWhile)

/-- **A keyword with a blank behind it** is a whole word. -/
theorem Leads.takeKeyword?_eq (h : Leads w rest cs) {k : String}
    (hk : ∀ c ∈ k.toList, isWordChar c = true) :
    takeKeyword? k cs = if w = k.toList then skipBlanks1? rest else none := by
  rw [takeKeyword?]
  rcases h.dropLead?_eq hk with ⟨hw, hdrop⟩ | ⟨hw, hdrop⟩
  · rw [if_pos hw, hdrop]
    rfl
  · rw [if_neg hw]
    cases hlead : dropLead? k.toList cs with
    | none => rfl
    | some cs' =>
      obtain ⟨c, hc, hword⟩ := hdrop cs' hlead
      cases cs' with
      | nil => cases hc
      | cons d cs' =>
        obtain rfl := Option.some.inj hc
        have hblank : ¬ isBlank d = true := fun hblank => by
          simp [isWordChar_of_isBlank hblank] at hword
        rw [Option.bind_some, skipBlanks1?, if_neg hblank]

/-- **A keyword that does not go on** is a whole word. -/
theorem Leads.takeLastKeyword?_eq (h : Leads w rest cs) {k : String}
    (hk : ∀ c ∈ k.toList, isWordChar c = true) :
    takeLastKeyword? k cs = if w = k.toList then some rest else none := by
  rw [takeLastKeyword?]
  rcases h.dropLead?_eq hk with ⟨hw, hdrop⟩ | ⟨hw, hdrop⟩
  · rw [if_pos hw, hdrop]
    cases rest with
    | nil => rfl
    | cons c rest => simp [h.ends c rfl]
  · rw [if_neg hw]
    cases hlead : dropLead? k.toList cs with
    | none => rfl
    | some cs' =>
      obtain ⟨c, hc, hword⟩ := hdrop cs' hlead
      cases cs' with
      | nil => cases hc
      | cons d cs' =>
        obtain rfl := Option.some.inj hc
        simp [hword]

end RtlFlow.Vhdl
