import RtlFlow.Text.Unicode.CaseMap

/-! # Lower case is a fixed point

A text in lower case is not changed by being put into lower case again. The claim is one about the
table of case runs: no image of a run is itself the source of a run. `CaseRun.apart` checks that for
two runs from their bounds alone, so the whole table is checked run by run and not character by
character. -/

namespace RtlFlow.Text.Unicode

/-- **No image of `r` is a source of `s`**, judged by the bounds of the two runs: the images of `r`
lie below or above the sources of `s`, or they fall into the gaps between them. -/
def CaseRun.apart (r s : CaseRun) : Bool :=
  Nat.blt (r.image + (r.last - r.first)) s.first || Nat.blt s.last r.image ||
    (Nat.beq s.step 2 && (Nat.beq r.step 2 || Nat.beq r.first r.last) &&
      Nat.beq ((r.image + s.first) % 2) 1)

/-- Runs that are apart map no code point twice. -/
theorem CaseRun.image?_eq_none_of_apart {r s : CaseRun} (h : r.apart s = true) {n m : Nat}
    (hm : r.image? n = some m) : s.image? m = none := by
  unfold CaseRun.image? at hm
  split at hm
  · rename_i hn
    obtain ⟨h1, h2, h3⟩ := hn
    obtain rfl : r.image + (n - r.first) = m := by simpa using hm
    unfold CaseRun.image?
    rw [if_neg]
    rintro ⟨hs1, hs2, hs3⟩
    simp only [apart, Bool.or_eq_true, Bool.and_eq_true, Nat.blt_eq, Nat.beq_eq] at h
    rcases h with (h | h) | ⟨⟨hstep, hr⟩, hpar⟩
    · omega
    · omega
    · -- the images of `r` all have the parity that the sources of `s` have not
      rw [hstep] at hs3
      rcases hr with hr | hr
      · rw [hr] at h3
        omega
      · omega
  · simp at hm

/-- The runs of all characters that are not their own lower case, those below `U+0080` and the
dotted capital I included. -/
def capitalRuns : List CaseRun :=
  ⟨0x41, 0x5A, 1, 0x61⟩ :: ⟨0x130, 0x130, 1, 0x69⟩ :: lowerRuns.toList

/-- The images of a run are characters. -/
def CaseRun.inRange (r : CaseRun) : Bool :=
  Nat.blt (r.image + (r.last - r.first)) 0xD800 ||
    (Nat.blt 0xDFFF r.image && Nat.blt (r.image + (r.last - r.first)) 0x110000)

/-- **The table of lower case maps no code point twice**, and only to characters. -/
theorem lowerRuns_apart :
    (lowerRuns.toList.all fun r => r.inRange && capitalRuns.all r.apart) = true := by
  decide +kernel

/-- The images of a run lie between those of its first and its last code point. -/
theorem CaseRun.image?_bounds {r : CaseRun} {n m : Nat} (hm : r.image? n = some m) :
    r.image ≤ m ∧ m ≤ r.image + (r.last - r.first) := by
  unfold CaseRun.image? at hm
  split at hm
  · rename_i hn
    obtain rfl : r.image + (n - r.first) = m := by simpa using hm
    omega
  · simp at hm

/-- An image of the table is a character that no run of capitals holds. -/
theorem image?_spec {r : CaseRun} (hr : r ∈ lowerRuns.toList) {n m : Nat}
    (hm : r.image? n = some m) : m.isValidChar ∧ ∀ s ∈ capitalRuns, s.image? m = none := by
  have h := List.all_eq_true.mp lowerRuns_apart r hr
  rw [Bool.and_eq_true, List.all_eq_true] at h
  refine ⟨?_, fun s hs => CaseRun.image?_eq_none_of_apart (h.2 s hs) hm⟩
  have hbound := CaseRun.image?_bounds hm
  have hrange := h.1
  simp only [CaseRun.inRange, Bool.or_eq_true, Bool.and_eq_true, Nat.blt_eq] at hrange
  unfold Nat.isValidChar
  omega

/-- The code point of the lower case of an ASCII letter. -/
theorem toNat_toLower (c : Char) :
    c.toLower.toNat = if 65 ≤ c.toNat ∧ c.toNat ≤ 90 then c.toNat + 32 else c.toNat := by
  have hiff : (c.val ≥ 'A'.val ∧ c.val ≤ 'Z'.val) ↔ (65 ≤ c.toNat ∧ c.toNat ≤ 90) := Iff.rfl
  unfold Char.toLower
  by_cases h : c.val ≥ 'A'.val ∧ c.val ≤ 'Z'.val
  · rw [dif_pos h, if_pos (hiff.mp h)]
    have hsum : (c.val + ('a'.val - 'A'.val)).toNat = (c.toNat + 32) % 4294967296 := rfl
    have hle := (hiff.mp h).2
    show (c.val + ('a'.val - 'A'.val)).toNat = _
    rw [hsum, Nat.mod_eq_of_lt (by omega)]
  · rw [dif_neg h, if_neg (mt hiff.mpr h)]

/-- The code point of the character with a code point. -/
theorem toNat_ofNat_of_isValidChar {n : Nat} (h : n.isValidChar) : (Char.ofNat n).toNat = n := by
  unfold Char.ofNat
  rw [dif_pos h]
  rfl

/-- **A character of lower case**: it is mapped to itself, and neither of the two characters with
rules of their own. -/
structure IsLower (c : Char) : Prop where
  /-- The table maps it to itself. -/
  fixed : lowerChar c = c
  /-- It is not the dotted capital I. -/
  notDotted : c ≠ '\u0130'
  /-- It is not the capital sigma. -/
  notSigma : c ≠ '\u03A3'

/-- A character that no run of capitals holds is one of lower case. -/
theorem isLower_of_capitalRuns {c : Char} (h : ∀ s ∈ capitalRuns, s.image? c.toNat = none) :
    IsLower c := by
  have hascii := h _ (List.mem_cons_self ..)
  have hdotted := h _ (List.mem_cons_of_mem _ (List.mem_cons_self ..))
  have htable : lowerRuns.findSome? (·.image? c.toNat) = none := by
    rw [Array.findSome?_eq_none_iff]
    intro s hs
    exact h s (List.mem_cons_of_mem _ (List.mem_cons_of_mem _ (Array.mem_toList_iff.mpr hs)))
  refine ⟨?_, ?_, ?_⟩
  · unfold lowerChar
    split
    · have hnot : ¬ (65 ≤ c.toNat ∧ c.toNat ≤ 90) := by
        rintro ⟨h1, h2⟩
        simp [CaseRun.image?, h1, h2, Nat.mod_one] at hascii
      apply Char.toNat_inj.mp
      rw [toNat_toLower, if_neg hnot]
    · rw [htable]
      rfl
  · rintro rfl
    revert hdotted
    decide
  · rintro rfl
    revert htable
    decide +kernel

/-- No run of the table holds a code point below `U+0080`. -/
theorem le_first_of_mem_lowerRuns : ∀ s ∈ lowerRuns.toList, 0x80 ≤ s.first := by
  decide +kernel

/-- A character below `U+0080` is one of lower case unless it is a capital letter. -/
theorem isLower_of_lt {c : Char} (hc : c.toNat < 0x80) (hup : ¬ (65 ≤ c.toNat ∧ c.toNat ≤ 90)) :
    IsLower c := by
  apply isLower_of_capitalRuns
  intro s hs
  have hbelow : ¬ (s.first ≤ c.toNat ∧ c.toNat ≤ s.last ∧ (c.toNat - s.first) % s.step = 0) := by
    rcases List.mem_cons.mp hs with rfl | hs
    · exact fun h => hup ⟨h.1, h.2.1⟩
    · rcases List.mem_cons.mp hs with rfl | hs
      · intro h
        have : 0x130 ≤ c.toNat := h.1
        omega
      · have := le_first_of_mem_lowerRuns s hs
        omega
  exact if_neg hbelow

/-- **The lower case of a character is one of lower case**, unless a rule of its own stands for
the character. -/
theorem isLower_lowerChar {c : Char} (hd : c ≠ '\u0130') (hs : c ≠ '\u03A3') :
    IsLower (lowerChar c) := by
  by_cases hc : c.toNat < 128
  · have hlow := toNat_toLower c
    unfold lowerChar
    rw [if_pos hc]
    apply isLower_of_lt <;> split at hlow <;> omega
  · cases hfind : lowerRuns.findSome? (·.image? c.toNat) with
    | none =>
      have hself : lowerChar c = c := by
        unfold lowerChar
        rw [if_neg hc, hfind]
        rfl
      rw [hself]
      exact ⟨hself, hd, hs⟩
    | some m =>
      have himage : lowerChar c = Char.ofNat m := by
        unfold lowerChar
        rw [if_neg hc, hfind]
        rfl
      obtain ⟨r, hr, hm⟩ := Array.exists_of_findSome?_eq_some hfind
      obtain ⟨hvalid, hnone⟩ := image?_spec (Array.mem_toList_iff.mpr hr) hm
      rw [himage]
      apply isLower_of_capitalRuns
      rw [toNat_ofNat_of_isValidChar hvalid]
      exact hnone

/-- Every character of a text that was put into lower case is one of lower case. -/
theorem isLower_of_mem_lowerFrom {before cs : List Char} {d : Char} (h : d ∈ lowerFrom before cs) :
    IsLower d := by
  induction cs generalizing before with
  | nil => simp [lowerFrom] at h
  | cons c cs ih =>
    rw [lowerFrom, List.mem_append] at h
    rcases h with h | h
    · split at h
      · -- the dotted capital I becomes two characters
        have hi : ∀ d ∈ ['i', '\u0307'], IsLower d := by
          simp only [List.mem_cons, List.not_mem_nil, or_false]
          rintro d (rfl | rfl)
          · exact isLower_of_lt (by decide) (by decide)
          · exact ⟨by decide +kernel, by decide, by decide⟩
        exact hi d h
      · split at h
        · -- the capital sigma becomes one of two, by what stands around it
          have hsigma : d = '\u03C2' ∨ d = '\u03C3' := by
            split at h
            · exact Or.inl (List.mem_singleton.mp h)
            · exact Or.inr (List.mem_singleton.mp h)
          rcases hsigma with rfl | rfl
          · exact ⟨by decide +kernel, by decide, by decide⟩
          · exact ⟨by decide +kernel, by decide, by decide⟩
        · rw [List.mem_singleton] at h
          subst h
          rename_i hd hs
          exact isLower_lowerChar hd hs
    · exact ih h

/-- A character of lower case stays at its place. -/
theorem lowerFrom_cons_of_isLower {c : Char} (h : IsLower c) (before cs : List Char) :
    lowerFrom before (c :: cs) = c :: lowerFrom (c :: before) cs := by
  rw [lowerFrom, if_neg h.notDotted, if_neg h.notSigma, h.fixed]
  rfl

/-- **The lower case of a text is made up of those of its parts.** What stands behind a part can
change its last characters. -/
theorem exists_lowerFrom_append (before x y : List Char) :
    ∃ x' before', lowerFrom before (x ++ y) = x' ++ lowerFrom before' y := by
  induction x generalizing before with
  | nil => exact ⟨[], before, rfl⟩
  | cons c x ih =>
    obtain ⟨x', before', h⟩ := ih (c :: before)
    rw [List.cons_append, lowerFrom, h, ← List.append_assoc]
    exact ⟨_, before', rfl⟩

/-- Characters of lower case are left as they are, whatever stands before them. -/
theorem lowerFrom_eq_self {before cs : List Char} (h : ∀ c ∈ cs, IsLower c) :
    lowerFrom before cs = cs := by
  induction cs generalizing before with
  | nil => rfl
  | cons c cs ih =>
    have hc := h c (List.mem_cons_self ..)
    rw [lowerFrom_cons_of_isLower hc, ih fun d hd => h d (List.mem_cons_of_mem _ hd)]

/-- **Lower case is a fixed point**: a text in lower case stays as it is. -/
@[simp] theorem lowercase_lowercase (s : String) : lowercase (lowercase s) = lowercase s := by
  unfold lowercase
  rw [String.toList_ofList, lowerFrom_eq_self fun _ h => isLower_of_mem_lowerFrom h]

/-! ## Capital letters of ASCII -/

/-- The letters of ASCII are told by their code points. -/
theorem isAlpha_iff (c : Char) : c.isAlpha = true ↔
    65 ≤ c.toNat ∧ c.toNat ≤ 90 ∨ 97 ≤ c.toNat ∧ c.toNat ≤ 122 := by
  have hcases : c.isAlpha = (decide ('A'.val ≤ c.val ∧ c.val ≤ 'Z'.val) ||
      ('a'.val ≤ c.val && c.val ≤ 'z'.val)) := rfl
  simp [hcases, UInt32.le_iff_toNat_le]

/-- Other characters are kept. -/
theorem toLower_of_le {c : Char} (h : 128 ≤ c.toNat) : c.toLower = c := by
  apply Char.toNat_inj.mp
  rw [toNat_toLower, if_neg (by omega)]

/-- A character in lower case is one of ASCII just when it was one. -/
theorem toNat_toLower_lt_iff (c : Char) : c.toLower.toNat < 128 ↔ c.toNat < 128 := by
  rw [toNat_toLower]
  split <;> omega

theorem isCased_toLower (c : Char) : isCased c.toLower = isCased c := by
  by_cases hc : c.toNat < 128
  · have halpha : c.toLower.isAlpha = true ↔ c.isAlpha = true := by
      rw [isAlpha_iff, isAlpha_iff, toNat_toLower]
      split <;> omega
    rw [isCased, isCased, if_pos hc, if_pos ((toNat_toLower_lt_iff c).mpr hc),
      Bool.eq_iff_iff.mpr halpha]
  · rw [toLower_of_le (by omega)]

theorem isCaseIgnorable_toLower (c : Char) : isCaseIgnorable c.toLower = isCaseIgnorable c := by
  by_cases hc : c.toNat < 128
  · rw [isCaseIgnorable, isCaseIgnorable, if_pos hc, if_pos ((toNat_toLower_lt_iff c).mpr hc),
      Bool.eq_iff_iff, toNat_toLower]
    simp only [asciiCaseIgnorable, List.contains_iff_mem, List.mem_cons, List.not_mem_nil, or_false]
    split <;> omega
  · rw [toLower_of_le (by omega)]

theorem lowerChar_toLower (c : Char) : lowerChar c.toLower = lowerChar c := by
  by_cases hc : c.toNat < 128
  · rw [lowerChar, lowerChar, if_pos hc, if_pos ((toNat_toLower_lt_iff c).mpr hc)]
    have hcode := toNat_toLower c
    apply Char.toNat_inj.mp
    rw [toNat_toLower, if_neg]
    split at hcode <;> omega
  · rw [toLower_of_le (by omega)]

theorem toLower_eq_iff {c d : Char} (hd : 128 ≤ d.toNat) : c.toLower = d ↔ c = d := by
  constructor
  · rintro rfl
    have hc := mt (toNat_toLower_lt_iff c).mpr (by omega)
    exact (toLower_of_le (by omega)).symm
  · rintro rfl
    exact toLower_of_le hd

/-- Whether a cased character comes next does not hang on the case of ASCII letters. -/
theorem casedAhead_map_toLower (cs : List Char) :
    casedAhead (cs.map Char.toLower) = casedAhead cs := by
  have hcomp : isCaseIgnorable ∘ Char.toLower = isCaseIgnorable := funext isCaseIgnorable_toLower
  rw [casedAhead, casedAhead, List.dropWhile_map, hcomp]
  cases cs.dropWhile isCaseIgnorable with
  | nil => rfl
  | cons c _ => exact isCased_toLower c

theorem lowerFrom_map_toLower (before cs : List Char) :
    lowerFrom (before.map Char.toLower) (cs.map Char.toLower) = lowerFrom before cs := by
  induction cs generalizing before with
  | nil => rfl
  | cons c cs ih =>
    have hrest := ih (c :: before)
    rw [List.map_cons] at hrest
    simp only [List.map_cons, lowerFrom, hrest, casedAhead_map_toLower, lowerChar_toLower,
      toLower_eq_iff (d := '\u0130') (by decide), toLower_eq_iff (d := '\u03A3') (by decide)]

/-- **The case of ASCII letters does not show in lower case**, nor does it change that of the
characters around them. -/
theorem lowercase_asciiLowercase (s : String) : lowercase (asciiLowercase s) = lowercase s := by
  rw [lowercase, lowercase, asciiLowercase, String.toList_ofList]
  exact congrArg String.ofList (lowerFrom_map_toLower [] s.toList)

/-! ## Signs -/

/-- **What one character becomes**: itself, a small letter of ASCII, or an image of the table. -/
theorem lowerChar_cases (c : Char) : lowerChar c = c ∨
    (0x61 ≤ (lowerChar c).toNat ∧ (lowerChar c).toNat ≤ 0x7A) ∨
      ∃ r ∈ lowerRuns.toList, r.image ≤ (lowerChar c).toNat ∧
        (lowerChar c).toNat ≤ r.image + (r.last - r.first) := by
  by_cases hc : c.toNat < 128
  · have hlower : lowerChar c = c.toLower := if_pos hc
    rw [hlower, toNat_toLower]
    by_cases hup : 65 ≤ c.toNat ∧ c.toNat ≤ 90
    · right
      left
      rw [if_pos hup]
      omega
    · exact Or.inl (Char.toNat_inj.mp (by rw [toNat_toLower, if_neg hup]))
  · have hlower : lowerChar c =
        ((lowerRuns.findSome? (·.image? c.toNat)).map Char.ofNat).getD c := if_neg hc
    cases hfind : lowerRuns.findSome? (·.image? c.toNat) with
    | none =>
      left
      rw [hlower, hfind, Option.map_none, Option.getD_none]
    | some m =>
      right
      right
      obtain ⟨r, hr, hm⟩ := Array.exists_of_findSome?_eq_some hfind
      have hmem := Array.mem_toList_iff.mpr hr
      obtain ⟨hvalid, -⟩ := image?_spec hmem hm
      refine ⟨r, hmem, ?_⟩
      rw [hlower, hfind, Option.map_some, Option.getD_some, toNat_ofNat_of_isValidChar hvalid]
      exact CaseRun.image?_bounds hm

/-- The table of lower case maps to no sign or digit of ASCII. -/
theorem le_image_of_mem_lowerRuns : ∀ r ∈ lowerRuns.toList, 0x61 ≤ r.image := by
  decide +kernel

/-- **Lower case brings in no sign of ASCII.** -/
theorem mem_of_mem_lowerFrom {before cs : List Char} {d : Char} (hd : d.toNat < 0x61)
    (h : d ∈ lowerFrom before cs) : d ∈ cs := by
  induction cs generalizing before with
  | nil => exact h
  | cons c cs ih =>
    rw [lowerFrom, List.mem_append] at h
    rcases h with h | h
    · have hnot : ∀ e : Char, 0x61 ≤ e.toNat → d ≠ e := fun e he heq => by
        rw [heq] at hd
        omega
      split at h
      · rcases List.mem_cons.mp h with h | h
        · exact absurd h (hnot 'i' (by decide))
        · exact absurd (List.mem_singleton.mp h) (hnot '\u0307' (by decide))
      · split at h
        · split at h
          · exact absurd (List.mem_singleton.mp h) (hnot '\u03C2' (by decide))
          · exact absurd (List.mem_singleton.mp h) (hnot '\u03C3' (by decide))
        · have hlower := List.mem_singleton.mp h
          rcases lowerChar_cases c with hself | hletter | ⟨r, hr, hlow, -⟩
          · rw [hlower, hself]
            exact List.mem_cons_self ..
          · exact absurd hlower (hnot _ hletter.1)
          · exact absurd hlower (hnot _ (Nat.le_trans (le_image_of_mem_lowerRuns r hr) hlow))
    · exact List.mem_cons_of_mem c (ih h)

end RtlFlow.Text.Unicode
