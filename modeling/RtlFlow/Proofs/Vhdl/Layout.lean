import RtlFlow.Proofs.Text.Trimming
import RtlFlow.Proofs.Vhdl.Comments
import RtlFlow.Proofs.Vhdl.Tokens

/-! # Layouts of tokens

The same tokens can be written in many ways: words in either case, and blanks, line breaks and
comments between any two tokens. `Written` is this freedom, and `Written.tokens_eq` shows that the
scan reads the tokens back from every layout. -/

namespace RtlFlow.Vhdl

open RtlFlow.Text
open RtlFlow.Text.Unicode

/-- **The text that is scanned**, behind the characters `before`: without comments and in lower
case. -/
def scanned (before cs : List Char) : List Char := lowerFrom before (codeFrom false cs)

theorem ofText_eq (s : String) : HdlFacts.ofText s = factsOf (scanned [] s.toList) := by
  rw [HdlFacts.ofText, lowercase, String.toList_ofList, toList_stripComments, scanned]

variable {c : Char} {cs ts tail : List Char}

/-! ## Characters between words -/

/-- **A character that ends a word**: a blank, or a sign of ASCII. -/
def EndsWord (c : Char) : Prop := isBlank c = true ∨ (c.toNat < 0x80 ∧ isWordChar c = false)

theorem EndsWord.isWordChar_eq (h : EndsWord c) : isWordChar c = false :=
  h.elim isWordChar_of_isBlank (·.2)

/-- What holds of the first 128 characters. -/
theorem forall_ascii {p : Char → Prop} (h : ∀ n, n < 0x80 → p (Char.ofNat n))
    (hc : c.toNat < 0x80) : p c := by
  rw [← Char.ofNat_toNat c]
  exact h c.toNat hc

/-- A character that ends a word is the same in lower case. -/
theorem EndsWord.isLower (h : EndsWord c) : IsLower c := by
  rcases h with hblank | ⟨hascii, hword⟩
  · exact isLower_of_isBlank hblank
  · refine isLower_of_lt hascii fun hcapital => ?_
    have hletter := forall_ascii (p := fun c => 65 ≤ c.toNat ∧ c.toNat ≤ 90 → isWordChar c = true)
      (by decide +kernel) hascii hcapital
    rw [hword] at hletter
    cases hletter

/-! ## Behind blanks and comments -/

/-- A blank is kept, or it is part of the end of a line. -/
theorem codeFrom_blank (h : isBlank c = true) (cs : List Char) :
    codeFrom false (c :: cs) = codeFrom false cs ∨
      codeFrom false (c :: cs) = c :: codeFrom false cs := by
  rw [codeFrom]
  split
  · subst c
    cases cs with
    | nil => exact Or.inl rfl
    | cons d cs => exact Or.inr rfl
  · have hhyphen : c ≠ '-' := fun hc => by
      rw [hc] at h
      revert h
      decide
    rw [if_neg (by simp), if_neg (by simp [hhyphen])]
    split
    · exact Or.inl rfl
    · exact Or.inr rfl

/-- **A blank is passed.** -/
theorem tokens_scanned_blank (h : isBlank c = true) (before cs : List Char) :
    ∃ before', tokens (scanned before (c :: cs)) = tokens (scanned before' cs) := by
  rcases codeFrom_blank h cs with heq | heq
  · exact ⟨before, by rw [scanned, heq, scanned]⟩
  · refine ⟨c :: before, ?_⟩
    rw [scanned, heq, lowerFrom_cons_of_isLower (EndsWord.isLower (Or.inl h)), tokens_blank h,
      scanned]

/-- **A comment is passed.** -/
theorem tokens_scanned_comment {text : List Char} (h : '\n' ∉ text) (before cs : List Char) :
    ∃ before', tokens (scanned before ('-' :: '-' :: (text ++ '\n' :: cs))) =
      tokens (scanned before' cs) := by
  have hcode : codeFrom false ('-' :: '-' :: (text ++ '\n' :: cs)) =
      codeFrom false ('\n' :: cs) := by
    rw [codeFrom_lineFeed, codeFrom, if_neg (by decide), if_neg (by simp), if_pos (by simp)]
    have hpassed : codeFrom true ('-' :: text ++ '\n' :: cs) = codeBehind cs :=
      codeFrom_true_append (by simpa using h)
    exact hpassed
  obtain ⟨before', heq⟩ := tokens_scanned_blank (c := '\n') (by decide) before cs
  exact ⟨before', by rw [← heq, scanned, hcode, scanned]⟩

/-- A comment is followed by a line feed. -/
theorem head?_codeFrom_true (cs : List Char) : ∀ d ∈ (codeFrom true cs).head?, d = '\n' := by
  induction cs with
  | nil => simp [codeFrom]
  | cons c cs ih =>
    rw [codeFrom]
    split
    · split <;> simp
    · rw [if_pos rfl]
      exact ih

/-- **What ends a word in a text ends it in the text that is scanned.** -/
theorem endsWord_head?_codeFrom (h : ∀ c ∈ cs.head?, EndsWord c) :
    ∀ d ∈ (codeFrom false cs).head?, EndsWord d := by
  have hfeed : EndsWord '\n' := Or.inl (by decide)
  cases cs with
  | nil => simp [codeFrom]
  | cons c cs =>
    have hline : ∀ rest, ∀ d ∈ (codeFrom false ('\n' :: rest)).head?, EndsWord d := by
      intro rest
      rw [codeFrom, if_pos rfl]
      split <;> simp [hfeed]
    have hc := h c rfl
    rw [codeFrom]
    split
    · split <;> simp [hfeed]
    · rw [if_neg (by simp)]
      split
      · -- of a comment only the end of its line is left
        intro d hd
        exact head?_codeFrom_true _ d hd ▸ hfeed
      · split
        · -- a carriage return is part of the end of the line
          rename_i hreturn
          obtain ⟨rest, rfl⟩ : ∃ rest, cs = '\n' :: rest := by
            cases cs with
            | nil => simp at hreturn
            | cons d rest => exact ⟨rest, by simpa using hreturn.2⟩
          exact hline rest
        · simpa using hc

theorem head?_scanned (h : ∀ c ∈ cs.head?, EndsWord c) (before : List Char) :
    ∀ d ∈ (scanned before cs).head?, isWordChar d = false := by
  have hhead := endsWord_head?_codeFrom h
  rw [scanned]
  cases hcode : codeFrom false cs with
  | nil => simp [lowerFrom]
  | cons d ds =>
    have hd : EndsWord d := hhead d (by simp [hcode])
    rw [lowerFrom_cons_of_isLower hd.isLower]
    simpa using hd.isWordChar_eq

/-! ## Layouts -/

/-- **A sign**: a character of ASCII that is neither part of a word, a blank nor a hyphen, with
which a comment could begin. -/
def IsSign (c : Char) : Prop :=
  c.toNat < 0x80 ∧ isWordChar c = false ∧ isBlank c = false ∧ c ≠ '-'

instance (c : Char) : Decidable (IsSign c) := inferInstanceAs (Decidable (_ ∧ _ ∧ _ ∧ _))

/-- **A word of ASCII letters, digits and underscores**, in either case. -/
def IsAsciiWord (w : List Char) : Prop :=
  w ≠ [] ∧ (w.all fun c => decide (c.toNat < 0x80) && isWordChar c) = true

instance (w : List Char) : Decidable (IsAsciiWord w) := inferInstanceAs (Decidable (_ ∧ _))

theorem IsAsciiWord.of_mem {w : List Char} (h : IsAsciiWord w) (hc : c ∈ w) :
    c.toNat < 0x80 ∧ isWordChar c = true := by
  simpa using List.all_eq_true.mp h.2 c hc

/-- **A text writes tokens in front of a tail**: blanks, line ends and comments stand between the
tokens as one likes, and words in either case. -/
inductive Written (tail : List Char) : List Token → List Char → Prop
  /-- No token. -/
  | nil : Written tail [] tail
  /-- A blank. -/
  | blank {c : Char} {ts : List Token} {cs : List Char} (hc : isBlank c = true)
      (h : Written tail ts cs) : Written tail ts (c :: cs)
  /-- A comment, up to the end of its line. -/
  | comment (text : List Char) {ts : List Token} {cs : List Char} (htext : '\n' ∉ text)
      (h : Written tail ts cs) : Written tail ts ('-' :: '-' :: (text ++ '\n' :: cs))
  /-- A sign. -/
  | sign {c : Char} {ts : List Token} {cs : List Char} (hc : IsSign c)
      (h : Written tail ts cs) : Written tail (.sign c :: ts) (c :: cs)
  /-- A word, behind which the text does not go on with a letter. -/
  | word {raw : List Char} {ts : List Token} {cs : List Char} (hraw : IsAsciiWord raw)
      (hend : ∀ c ∈ cs.head?, EndsWord c) (h : Written tail ts cs) :
      Written tail (.word (raw.map Char.toLower) :: ts) (raw ++ cs)

/-- A word with a blank behind it. -/
theorem Written.spaced (raw : String) (hraw : IsAsciiWord raw.toList) (hc : isBlank c = true)
    {ts : List Token} (h : Written tail ts cs) :
    Written tail (.word (raw.toList.map Char.toLower) :: ts) (raw.toList ++ c :: cs) :=
  .word hraw (fun _ hd => Option.some.inj hd ▸ Or.inl hc) (.blank hc h)

/-- A word with a sign behind it. -/
theorem Written.signed (raw : String) (hraw : IsAsciiWord raw.toList) (hc : IsSign c)
    {ts : List Token} (h : Written tail ts cs) :
    Written tail (.word (raw.toList.map Char.toLower) :: .sign c :: ts) (raw.toList ++ c :: cs) :=
  .word hraw (fun _ hd => Option.some.inj hd ▸ Or.inr ⟨hc.1, hc.2.1⟩) (.sign hc h)

/-- A character that neither ends a line nor begins a comment is kept. -/
theorem codeFrom_cons (hfeed : c ≠ '\n') (hhyphen : c ≠ '-') (hreturn : c ≠ '\r')
    (cs : List Char) : codeFrom false (c :: cs) = c :: codeFrom false cs := by
  rw [codeFrom, if_neg hfeed, if_neg (by simp), if_neg (by simp [hhyphen]),
    if_neg (by simp [hreturn])]

theorem IsSign.tokens_scanned (h : IsSign c) (before cs : List Char) :
    ∃ before', tokens (scanned before (c :: cs)) = .sign c :: tokens (scanned before' cs) := by
  obtain ⟨hascii, hword, hblank, hhyphen⟩ := h
  have hne : ∀ d, isBlank d = true → c ≠ d := fun d hd heq => by simp [heq, hd] at hblank
  refine ⟨c :: before, ?_⟩
  rw [scanned, codeFrom_cons (hne _ (by decide)) hhyphen (hne _ (by decide)),
    lowerFrom_cons_of_isLower (EndsWord.isLower (Or.inr ⟨hascii, hword⟩)),
    tokens_sign hword hblank, scanned]

/-- The lower case of an ASCII letter is one of words. -/
theorem isWordChar_toLower (hascii : c.toNat < 0x80) (h : isWordChar c = true) :
    isWordChar c.toLower = true :=
  forall_ascii (p := fun c => isWordChar c = true → isWordChar c.toLower = true)
    (by decide +kernel) hascii h

/-- The scan keeps a word in lower case. -/
theorem scanned_word {raw : List Char} (hraw : ∀ c ∈ raw, c.toNat < 0x80 ∧ isWordChar c = true)
    (before cs : List Char) : ∃ before',
      scanned before (raw ++ cs) = raw.map Char.toLower ++ scanned before' cs := by
  induction raw generalizing before with
  | nil => exact ⟨before, rfl⟩
  | cons c raw ih =>
    obtain ⟨hascii, hword⟩ := hraw c (List.mem_cons_self ..)
    obtain ⟨before', heq⟩ := ih (fun d hd => hraw d (List.mem_cons_of_mem _ hd)) (c :: before)
    refine ⟨before', ?_⟩
    -- the character ends no line, begins no comment and has no rule of its own in lower case
    have hne : ∀ d, isWordChar d = false → c ≠ d := fun d hd hcd => by simp [hcd, hd] at hword
    have hwide : ∀ d : Char, 0x80 ≤ d.toNat → c ≠ d := fun d hd hcd => by
      rw [hcd] at hascii
      omega
    have hlower : lowerChar c = c.toLower := if_pos hascii
    rw [List.cons_append, scanned, codeFrom_cons (hne _ (by decide +kernel))
      (hne _ (by decide +kernel)) (hne _ (by decide +kernel)), lowerFrom,
      if_neg (hwide _ (by decide)), if_neg (hwide _ (by decide)), hlower, ← scanned, heq]
    rfl

theorem IsAsciiWord.tokens_scanned {raw : List Char} (h : IsAsciiWord raw)
    (hend : ∀ c ∈ cs.head?, EndsWord c) (before : List Char) : ∃ before',
      tokens (scanned before (raw ++ cs)) =
        .word (raw.map Char.toLower) :: tokens (scanned before' cs) := by
  obtain ⟨before', heq⟩ := scanned_word (fun _ hc => h.of_mem hc) before cs
  refine ⟨before', ?_⟩
  have hleads : Leads (raw.map Char.toLower) (scanned before' cs) (scanned before (raw ++ cs)) := by
    refine ⟨heq, fun d hd => ?_, head?_scanned hend before'⟩
    obtain ⟨c, hc, rfl⟩ := List.mem_map.mp hd
    exact isWordChar_toLower (h.of_mem hc).1 (h.of_mem hc).2
  exact hleads.tokens_eq (by simpa using h.1)

/-- **The tokens are read back from every layout.** -/
theorem Written.tokens_eq {ts : List Token} (h : Written tail ts cs) (before : List Char) :
    ∃ before', tokens (scanned before cs) = ts ++ tokens (scanned before' tail) := by
  induction h generalizing before with
  | nil => exact ⟨before, rfl⟩
  | blank hc _ ih =>
    obtain ⟨b, hb⟩ := tokens_scanned_blank hc before _
    rw [hb]
    exact ih b
  | comment text htext _ ih =>
    obtain ⟨b, hb⟩ := tokens_scanned_comment htext before _
    rw [hb]
    exact ih b
  | sign hc _ ih =>
    obtain ⟨b, hb⟩ := hc.tokens_scanned before _
    obtain ⟨before', h⟩ := ih b
    exact ⟨before', by rw [hb, h, List.cons_append]⟩
  | word hraw hend _ ih =>
    obtain ⟨b, hb⟩ := hraw.tokens_scanned hend before
    obtain ⟨before', h⟩ := ih b
    exact ⟨before', by rw [hb, h, List.cons_append]⟩

end RtlFlow.Vhdl
