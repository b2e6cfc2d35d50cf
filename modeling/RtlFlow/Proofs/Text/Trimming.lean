import RtlFlow.Text.Blank
import RtlFlow.Proofs.Text.LowerCase
import Mathlib.Data.List.DropRight

/-! # Trimmed text in lower case

A text is trimmed when it neither begins nor ends with a blank. To put it into lower case keeps it
so, and makes it so only if it was (`trim_lowercase_eq_self_iff`): the first and the last character
are mapped one by one, and the table of lower case maps no character to a blank and no blank to
another character, which is checked run by run. -/

namespace RtlFlow.Text

open RtlFlow.Text.Unicode

/-- **Characters with nothing to drop at the two ends.** -/
structure IsTrimmed (p : Char → Bool) (cs : List Char) : Prop where
  /-- The first one stays. -/
  head : ∀ c ∈ cs.head?, p c = false
  /-- The last one stays. -/
  last : ∀ c ∈ cs.getLast?, p c = false

/-- Nothing is dropped from trimmed characters. -/
theorem IsTrimmed.trimWhere_eq {p : Char → Bool} {cs : List Char} (h : IsTrimmed p cs) :
    trimWhere p cs = cs := by
  have hfront : cs.dropWhile p = cs := by
    cases cs with
    | nil => rfl
    | cons c cs => rw [List.dropWhile_cons_of_neg (by simp [h.head c rfl])]
  show (cs.dropWhile p).rdropWhile p = cs
  rw [hfront, List.rdropWhile_eq_self_iff]
  intro hne
  simp [h.last _ (List.getLast?_eq_some_getLast hne)]

/-- What is left after dropping is trimmed. -/
theorem isTrimmed_trimWhere (p : Char → Bool) (cs : List Char) :
    IsTrimmed p (trimWhere p cs) := by
  show IsTrimmed p ((cs.dropWhile p).rdropWhile p)
  constructor
  · -- the first character is the one that dropping at the front left
    intro c hc
    obtain ⟨rest, hrest⟩ := List.rdropWhile_prefix p (cs.dropWhile p)
    have hhead : (cs.dropWhile p).head? = some c := by
      rw [← hrest, List.head?_append, hc, Option.some_or]
    have hnot := List.head?_dropWhile_not p cs
    rw [hhead] at hnot
    simpa using hnot
  · intro c hc
    obtain ⟨hne, rfl⟩ := List.mem_getLast?_eq_getLast hc
    simpa using List.rdropWhile_last_not p (cs.dropWhile p) hne

/-! ## What is dropped -/

section Dropped

variable {p : Char → Bool} {c : Char} {x y cs : List Char}

/-- Dropping stops at a character that stays. -/
theorem dropWhile_append_cons (hc : p c = false) :
    (x ++ c :: y).dropWhile p = x.dropWhile p ++ c :: y := by
  induction x with
  | nil => rw [List.nil_append, List.dropWhile_cons_of_neg (by simp [hc]), List.dropWhile_nil,
      List.nil_append]
  | cons d x ih =>
    rw [List.cons_append, List.dropWhile_cons, List.dropWhile_cons]
    split
    · exact ih
    · rfl

theorem rdropWhile_append_cons (hc : p c = false) :
    (x ++ c :: y).rdropWhile p = x ++ c :: y.rdropWhile p := by
  rw [List.rdropWhile, List.reverse_append, List.reverse_cons, List.append_assoc,
    List.singleton_append, dropWhile_append_cons hc]
  simp [List.rdropWhile]

/-- **On each side of a character that stays** the characters are dropped at one end. -/
theorem trimWhere_append_cons (hc : p c = false) :
    trimWhere p (x ++ c :: y) = x.dropWhile p ++ c :: y.rdropWhile p := by
  show ((x ++ c :: y).dropWhile p).rdropWhile p = _
  rw [dropWhile_append_cons hc, rdropWhile_append_cons hc]

/-- Nothing is left just when all characters are dropped. -/
theorem trimWhere_eq_nil_iff : trimWhere p cs = [] ↔ ∀ c ∈ cs, p c = true := by
  show (cs.dropWhile p).rdropWhile p = [] ↔ _
  rw [List.rdropWhile_eq_nil_iff]
  constructor
  · intro h
    by_contra hstays
    have hne : cs.dropWhile p ≠ [] := mt List.dropWhile_eq_nil_iff.mp hstays
    have hhead := List.head_dropWhile_not p hne
    rw [h _ (List.head_mem hne)] at hhead
    cases hhead
  · exact fun h c hc => h c ((List.dropWhile_suffix p).subset hc)

theorem trimWhere_ne_nil_iff : trimWhere p cs ≠ [] ↔ ∃ c ∈ cs, p c = false := by
  rw [ne_eq, trimWhere_eq_nil_iff]
  simp

/-- Where dropping at one end has begun it goes on. -/
theorem trimWhere_dropWhile (p : Char → Bool) (cs : List Char) :
    trimWhere p (cs.dropWhile p) = trimWhere p cs := by
  rw [trimWhere, List.dropWhile_idempotent, ← trimWhere]

theorem trimWhere_rdropWhile (p : Char → Bool) (cs : List Char) :
    trimWhere p (cs.rdropWhile p) = trimWhere p cs := by
  by_cases hall : ∀ c ∈ cs, p c = true
  · rw [List.rdropWhile_eq_nil_iff.mpr hall, trimWhere_eq_nil_iff.mpr hall]
    rfl
  · obtain ⟨c, hc, hstays⟩ : ∃ c ∈ cs, p c = false := by simpa using hall
    obtain ⟨x, y, rfl⟩ := List.append_of_mem hc
    rw [rdropWhile_append_cons hstays, trimWhere_append_cons hstays, trimWhere_append_cons hstays,
      List.rdropWhile_idempotent]

/-- A character that stays is among the trimmed ones just when it was among them. -/
theorem mem_trimWhere_iff (hc : p c = false) : c ∈ trimWhere p cs ↔ c ∈ cs := by
  constructor
  · intro h
    exact (List.dropWhile_suffix p).subset ((List.rdropWhile_prefix p _).subset h)
  · intro h
    obtain ⟨x, y, rfl⟩ := List.append_of_mem h
    rw [trimWhere_append_cons hc]
    simp

end Dropped

/-- The runs of the code points of blanks. -/
def blankRuns : List (Nat × Nat) :=
  [(9, 13), (0x20, 0x20), (0x85, 0x85), (0xA0, 0xA0), (0x1680, 0x1680), (0x2000, 0x200A),
    (0x2028, 0x2029), (0x202F, 0x202F), (0x205F, 0x205F), (0x3000, 0x3000)]

/-- A blank lies in one of the runs. -/
theorem mem_blankRuns {c : Char} (h : isBlank c = true) :
    ∃ r ∈ blankRuns, r.1 ≤ c.toNat ∧ c.toNat ≤ r.2 := by
  simp only [isBlank, Bool.or_eq_true, Bool.and_eq_true, decide_eq_true_eq, beq_iff_eq] at h
  simp only [blankRuns, List.mem_cons, List.not_mem_nil, or_false, exists_eq_or_imp,
    exists_eq_left]
  omega

/-- **The table of lower case maps no code point to a blank.** -/
theorem lowerRuns_noBlank : ∀ r ∈ lowerRuns.toList, ∀ b ∈ blankRuns,
    b.2 < r.image ∨ r.image + (r.last - r.first) < b.1 := by
  decide +kernel

/-- The lower case of a character is a blank only if the character is one. -/
theorem isBlank_lowerChar {c : Char} (h : isBlank c = false) : isBlank (lowerChar c) = false := by
  by_contra hblank
  rw [Bool.not_eq_false] at hblank
  obtain ⟨b, hb, hlow, hhigh⟩ := mem_blankRuns hblank
  rcases lowerChar_cases c with hself | hletter | ⟨r, hr, hbounds⟩
  · rw [hself, h] at hblank
    cases hblank
  · simp only [isBlank, Bool.or_eq_true, Bool.and_eq_true, decide_eq_true_eq, beq_iff_eq] at hblank
    omega
  · have hapart := lowerRuns_noBlank r hr b hb
    omega

/-- What one character becomes in lower case: at least one character, and no blank unless the
character is one. -/
theorem exists_lowerFrom_cons (before : List Char) (c : Char) (cs : List Char) :
    ∃ here, lowerFrom before (c :: cs) = here ++ lowerFrom (c :: before) cs ∧ here ≠ [] ∧
      (isBlank c = false → ∀ d ∈ here, isBlank d = false) := by
  rw [lowerFrom]
  by_cases hdotted : c = '\u0130'
  · rw [if_pos hdotted]
    exact ⟨_, rfl, by simp, fun _ => by simp [isBlank]⟩
  · rw [if_neg hdotted]
    by_cases hsigma : c = '\u03A3'
    · rw [if_pos hsigma]
      cases casedAhead before && !casedAhead cs
      · exact ⟨_, rfl, by simp, fun _ => by simp [isBlank]⟩
      · exact ⟨_, rfl, by simp, fun _ => by simp [isBlank]⟩
    · rw [if_neg hsigma]
      exact ⟨_, rfl, by simp, fun hc => by simpa using isBlank_lowerChar hc⟩

/-- Nothing is lost in lower case. -/
theorem lowercase_eq_empty_iff {s : String} : lowercase s = "" ↔ s = "" := by
  rw [lowercase, ← String.ofList_nil, String.ofList_inj, ← String.toList_eq_nil_iff]
  cases hcs : s.toList with
  | nil => simp [lowerFrom]
  | cons c cs =>
    obtain ⟨here, heq, hne, -⟩ := exists_lowerFrom_cons [] c cs
    simp [heq, hne]

theorem asciiLowercase_eq_empty_iff {s : String} : asciiLowercase s = "" ↔ s = "" := by
  rw [asciiLowercase, ← String.ofList_nil, String.ofList_inj, List.map_eq_nil_iff,
    ← String.ofList_inj, String.ofList_toList]

/-- **Trimmed characters stay trimmed in lower case.** -/
theorem IsTrimmed.lowerFrom {cs : List Char} (h : IsTrimmed isBlank cs) (before : List Char) :
    IsTrimmed isBlank (Unicode.lowerFrom before cs) := by
  constructor
  · cases cs with
    | nil => simp [Unicode.lowerFrom]
    | cons c cs =>
      obtain ⟨here, heq, hne, hclear⟩ := exists_lowerFrom_cons before c cs
      obtain ⟨d, ds, rfl⟩ := List.exists_cons_of_ne_nil hne
      rw [heq]
      simpa using hclear (h.head c rfl) d (List.mem_cons_self ..)
  · have hlast := h.last
    clear h
    induction cs generalizing before with
    | nil => simp [Unicode.lowerFrom]
    | cons c cs ih =>
      obtain ⟨here, heq, hne, hclear⟩ := exists_lowerFrom_cons before c cs
      rw [heq]
      cases cs with
      | nil =>
        intro d hd
        rw [Unicode.lowerFrom, List.append_nil] at hd
        exact hclear (hlast c rfl) d (List.mem_of_getLast? hd)
      | cons c' cs =>
        -- the last character comes from behind the first one
        obtain ⟨here', heq', hne', -⟩ := exists_lowerFrom_cons (c :: before) c' cs
        have hrest : Unicode.lowerFrom (c :: before) (c' :: cs) ≠ [] := by
          rw [heq']
          simp [hne']
        rw [List.getLast?_append_of_ne_nil _ hrest]
        exact ih _ fun d hd => hlast d (by rwa [List.getLast?_cons_cons])

/-- **A trimmed text in lower case is trimmed.** -/
theorem trim_lowercase_trim (s : String) :
    trim (lowercase (trim s)) = lowercase (trim s) := by
  have htrimmed := (isTrimmed_trimWhere isBlank s.toList).lowerFrom []
  have htext : (lowercase (trim s)).toList =
      Unicode.lowerFrom [] (trimWhere isBlank s.toList) := by
    simp only [lowercase, trim, String.toList_ofList]
  rw [← htext] at htrimmed
  rw [trim, htrimmed.trimWhere_eq, String.ofList_toList]

/-! ## Blanks in lower case -/

/-- **No run of capitals reaches into the blanks.** -/
theorem capitalRuns_noBlank : ∀ r ∈ capitalRuns, ∀ b ∈ blankRuns,
    b.2 < r.first ∨ r.last < b.1 := by
  decide +kernel

/-- A blank is a character of lower case. -/
theorem isLower_of_isBlank {c : Char} (h : isBlank c = true) : IsLower c := by
  obtain ⟨b, hb, hlow, hhigh⟩ := mem_blankRuns h
  refine isLower_of_capitalRuns fun r hr => ?_
  have hapart := capitalRuns_noBlank r hr b hb
  rw [CaseRun.image?, if_neg]
  omega

/-- **What is trimmed in lower case is trimmed.** -/
theorem isTrimmed_of_lowerFrom {before cs : List Char}
    (h : IsTrimmed isBlank (Unicode.lowerFrom before cs)) : IsTrimmed isBlank cs := by
  constructor
  · intro c hc
    by_contra hblank
    rw [Bool.not_eq_false] at hblank
    cases cs with
    | nil => cases hc
    | cons d cs =>
      obtain rfl : d = c := Option.some.inj hc
      -- a blank at the front stays there
      rw [lowerFrom_cons_of_isLower (isLower_of_isBlank hblank)] at h
      have hhead := h.head d rfl
      rw [hblank] at hhead
      cases hhead
  · intro c hc
    by_contra hblank
    rw [Bool.not_eq_false] at hblank
    obtain ⟨init, rfl⟩ := List.getLast?_eq_some_iff.mp hc
    obtain ⟨x, before', heq⟩ := exists_lowerFrom_append before init [c]
    -- and so does one at the end
    rw [heq, lowerFrom_cons_of_isLower (isLower_of_isBlank hblank), Unicode.lowerFrom] at h
    have hlast := h.last c (by simp)
    rw [hblank] at hlast
    cases hlast

/-- A text is trimmed when nothing is dropped from it. -/
theorem trim_eq_self_iff {s : String} : trim s = s ↔ IsTrimmed isBlank s.toList := by
  rw [trim]
  constructor
  · intro h
    have htext := isTrimmed_trimWhere isBlank s.toList
    rwa [← String.toList_ofList (l := trimWhere isBlank s.toList), h] at htext
  · intro h
    rw [h.trimWhere_eq, String.ofList_toList]

/-- A blank is no letter, so that it is kept when ASCII letters are put into lower case. -/
theorem toLower_of_isBlank {c : Char} (h : isBlank c = true) : c.toLower = c := by
  have hcode := toNat_toLower c
  have hletter : ¬ (65 ≤ c.toNat ∧ c.toNat ≤ 90) := by
    intro hup
    simp only [isBlank, Bool.or_eq_true, Bool.and_eq_true, decide_eq_true_eq, beq_iff_eq] at h
    omega
  rw [if_neg hletter] at hcode
  exact Char.toNat_inj.mp hcode

/-- A text without a blank when its ASCII letters are put into lower case is trimmed. -/
theorem trim_eq_self_of_asciiLowercase {s : String}
    (h : ∀ c ∈ (asciiLowercase s).toList, isBlank c = false) : trim s = s := by
  have hclear : ∀ c ∈ s.toList, isBlank c = false := by
    intro c hc
    by_contra hblank
    rw [Bool.not_eq_false] at hblank
    have hmem : c.toLower ∈ (asciiLowercase s).toList := by
      rw [asciiLowercase, String.toList_ofList]
      exact List.mem_map_of_mem hc
    rw [toLower_of_isBlank hblank] at hmem
    rw [h c hmem] at hblank
    cases hblank
  rw [trim_eq_self_iff]
  exact ⟨fun c hc => hclear c (List.mem_of_mem_head? hc),
    fun c hc => hclear c (List.mem_of_getLast? hc)⟩

/-- **A text in lower case is trimmed when the text is.** -/
theorem trim_lowercase_eq_self_iff {s : String} :
    trim (lowercase s) = lowercase s ↔ trim s = s := by
  rw [trim_eq_self_iff, trim_eq_self_iff, lowercase, String.toList_ofList]
  exact ⟨isTrimmed_of_lowerFrom, fun h => h.lowerFrom []⟩

end RtlFlow.Text
