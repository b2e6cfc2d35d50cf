import RtlFlow.Text.Search
import Mathlib.Data.List.Infix
import Mathlib.Data.String.Basic

/-! # Occurrences and their replacement

What `replaceAll` makes of a text is told by where the replaced text occurs in it. Two cases are
enough to follow it from left to right: characters with no occurrence among them are kept
(`replaceFrom_append`), and an occurrence at the front is replaced and passed (`replaceFrom_lead`).
-/

namespace RtlFlow.Text

variable {pat cs x y : List Char} {p : Char} {ps new : List Char}

/-- What is left behind a leading text. -/
theorem dropLead?_eq_some_iff {rest : List Char} :
    dropLead? pat cs = some rest ↔ cs = pat ++ rest := by
  induction pat generalizing cs with
  | nil => simp [dropLead?]
  | cons p ps ih =>
    cases cs with
    | nil => simp [dropLead?]
    | cons c cs =>
      rw [dropLead?, List.cons_append, List.cons.injEq]
      by_cases hpc : p = c
      · simp [hpc, ih]
      · simp [hpc, Ne.symm hpc]

theorem isSome_dropLead?_iff : (dropLead? pat cs).isSome = true ↔ pat <+: cs := by
  simp only [Option.isSome_iff_exists, dropLead?_eq_some_iff]
  exact exists_congr fun rest => eq_comm

/-! ## Occurrences -/

/-- **How often a text occurs** in characters, wherever it begins. -/
def occurrences (pat : List Char) : List Char → Nat
  | [] => 0
  | c :: cs => (if (dropLead? pat (c :: cs)).isSome then 1 else 0) + occurrences pat cs

theorem occurrences_cons_of_isPrefix {c : Char} (h : pat <+: c :: cs) :
    occurrences pat (c :: cs) = 1 + occurrences pat cs := by
  rw [occurrences, if_pos (isSome_dropLead?_iff.mpr h)]

theorem occurrences_cons_of_not_isPrefix {c : Char} (h : ¬ pat <+: c :: cs) :
    occurrences pat (c :: cs) = occurrences pat cs := by
  rw [occurrences, if_neg (mt isSome_dropLead?_iff.mp h), Nat.zero_add]

/-- Characters in front take no occurrence away. -/
theorem occurrences_le_append : occurrences pat y ≤ occurrences pat (x ++ y) := by
  induction x with
  | nil => exact le_rfl
  | cons c x ih =>
    rw [List.cons_append, occurrences]
    exact ih.trans (Nat.le_add_left ..)

/-- A text occurs exactly where it can be cut out. -/
theorem isSome_cutAt?_iff (hpat : pat ≠ []) (before : List Char) :
    (cutAt? pat before cs).isSome = true ↔ 0 < occurrences pat cs := by
  induction cs generalizing before with
  | nil => simp [cutAt?, occurrences, hpat]
  | cons c cs ih =>
    rw [cutAt?, occurrences]
    cases hlead : dropLead? pat (c :: cs) with
    | none => simpa [hlead] using ih (c :: before)
    | some rest => simp

theorem contains_iff {s old : String} (hold : old.toList ≠ []) :
    contains s old = true ↔ 0 < occurrences old.toList s.toList := by
  rw [contains, splitFirst?, Option.isSome_map, isSome_cutAt?_iff hold]

/-! ## Replacement -/

/-- The characters of an occurrence are passed. -/
theorem replaceFrom_skip (x y : List Char) :
    replaceFrom p ps new x.length (x ++ y) = replaceFrom p ps new 0 y := by
  induction x with
  | nil => rfl
  | cons c x ih =>
    rw [List.cons_append, List.length_cons, replaceFrom, if_neg (by simp), Nat.add_sub_cancel, ih]

/-- **An occurrence at the front is replaced.** -/
theorem replaceFrom_lead (y : List Char) :
    replaceFrom p ps new 0 (p :: ps ++ y) = new ++ replaceFrom p ps new 0 y := by
  have hlead : (dropLead? (p :: ps) (p :: (ps ++ y))).isSome = true :=
    isSome_dropLead?_iff.mpr ⟨y, rfl⟩
  rw [List.cons_append, replaceFrom, if_pos rfl, if_pos hlead, replaceFrom_skip]

/-- **Characters that add no occurrence are kept.** -/
theorem replaceFrom_append (h : occurrences (p :: ps) (x ++ y) = occurrences (p :: ps) y) :
    replaceFrom p ps new 0 (x ++ y) = x ++ replaceFrom p ps new 0 y := by
  induction x with
  | nil => rfl
  | cons c x ih =>
    rw [List.cons_append] at h
    have hle : occurrences (p :: ps) y ≤ occurrences (p :: ps) (x ++ y) := occurrences_le_append
    have hnot : ¬ p :: ps <+: c :: (x ++ y) := by
      intro hprefix
      rw [occurrences_cons_of_isPrefix hprefix] at h
      omega
    rw [occurrences_cons_of_not_isPrefix hnot] at h
    rw [List.cons_append, replaceFrom, if_pos rfl, if_neg (mt isSome_dropLead?_iff.mp hnot), ih h,
      List.cons_append]

/-- The characters of a text with every occurrence replaced. -/
theorem toList_replaceAll {s old : String} (hold : old.toList = p :: ps) (new : String) :
    (replaceAll s old new).toList = replaceFrom p ps new.toList 0 s.toList := by
  rw [replaceAll, hold]
  dsimp only
  split
  · rw [String.toList_ofList]
  · rename_i hnot
    rw [contains_iff (by simp [hold]), hold, Nat.not_lt, Nat.le_zero] at hnot
    have hkept : replaceFrom p ps new.toList 0 (s.toList ++ []) =
        s.toList ++ replaceFrom p ps new.toList 0 [] :=
      replaceFrom_append (by rw [List.append_nil, hnot, occurrences])
    rw [replaceFrom, List.append_nil] at hkept
    exact hkept.symm

end RtlFlow.Text
