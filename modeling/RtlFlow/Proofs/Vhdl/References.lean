import RtlFlow.Vhdl.Facts
import Mathlib.Data.List.Basic

/-! # What the facts about a file name

Membership in the sets that the ordering of compilation reads off the facts about a file: the
libraries that the file needs (`mem_requiredLibraries`) and the units of its own library to which it
refers (`mem_localReferences`). -/

namespace RtlFlow

/-- What is added one by one to a set is in the set. -/
theorem mem_foldl_add {α : Type} {add : α → List α → List α}
    (hadd : ∀ x y set, x ∈ add y set ↔ x = y ∨ x ∈ set) (xs set : List α) (x : α) :
    x ∈ xs.foldl (fun set y => add y set) set ↔ x ∈ set ∨ x ∈ xs := by
  induction xs generalizing set with
  | nil => simp
  | cons y xs ih =>
    rw [List.foldl_cons, ih, hadd, List.mem_cons]
    tauto

namespace Table

@[simp] theorem mem_addText {s t : String} {set : List String} :
    s ∈ addText t set ↔ s = t ∨ s ∈ set := by
  induction set with
  | nil => simp [addText]
  | cons u set ih =>
    unfold addText
    split
    · simp
    · split
      · rw [List.mem_cons, ih, List.mem_cons]
        exact or_left_comm
      · rename_i h1 h2
        have htu : t = u := String.le_antisymm (String.not_lt.mp h2) (String.not_lt.mp h1)
        simp [htu]

@[simp] theorem mem_textSet {s : String} {texts : List String} : s ∈ textSet texts ↔ s ∈ texts :=
  (mem_foldl_add (fun _ _ _ => mem_addText) texts [] s).trans (by simp)

end Table

namespace UnitRef

variable {r s : UnitRef}

/-- Two references of which neither stands before the other are the same. -/
theorem eq_of_not_before (hrs : r.before s = false) (hsr : s.before r = false) : r = s := by
  have htext : ∀ a b : String, ¬ a < b → ¬ b < a → a = b := fun a b hab hba =>
    String.le_antisymm (String.not_lt.mp hba) (String.not_lt.mp hab)
  obtain ⟨l, u⟩ := r
  obtain ⟨l', u'⟩ := s
  unfold before at hrs hsr
  cases l with
  | none =>
    cases l' with
    | none => rw [htext u u' (by simpa using hrs) (by simpa using hsr)]
    | some m => simp at hrs
  | some l =>
    cases l' with
    | none => simp at hsr
    | some m =>
      simp only [Bool.or_eq_false_iff, decide_eq_false_iff_not, Bool.and_eq_false_imp,
        beq_iff_eq] at hrs hsr
      have hlm := htext l m hrs.1 hsr.1
      rw [hlm, htext u u' (by simpa using hrs.2 hlm) (by simpa using hsr.2 hlm.symm)]

@[simp] theorem mem_addTo {set : List UnitRef} : s ∈ r.addTo set ↔ s = r ∨ s ∈ set := by
  induction set with
  | nil => simp [addTo]
  | cons t set ih =>
    unfold addTo
    split
    · simp
    · split
      · rw [List.mem_cons, ih, List.mem_cons]
        exact or_left_comm
      · rename_i hrt htr
        have heq : r = t := eq_of_not_before (by simpa using hrt) (by simpa using htr)
        simp [heq]

@[simp] theorem mem_setOf {refs : List UnitRef} : r ∈ setOf refs ↔ r ∈ refs :=
  (mem_foldl_add (fun _ _ _ => mem_addTo) refs [] r).trans (by simp)

end UnitRef

namespace HdlFacts

variable {h : HdlFacts}

/-- The facts **name a library**: in a library clause, or before the unit of a use clause or of an
instantiation. -/
def NamesLibrary (h : HdlFacts) (l : String) : Prop :=
  l ∈ h.libraries ∨ ∃ r, (r ∈ h.uses ∨ r ∈ h.instances) ∧ r.library = some l

/-- The facts **refer to a unit** of library `own`: a use clause or an instantiation names it behind
`work` or behind the library itself, or an instantiation names it alone. -/
def RefersTo (h : HdlFacts) (own unit : String) : Prop :=
  (∃ r ∈ h.uses, r.unit = unit ∧ (r.library = some workLibrary ∨ r.library = some own)) ∨
    ∃ r ∈ h.instances, r.unit = unit ∧
      (r.library = none ∨ r.library = some workLibrary ∨ r.library = some own)

/-- A file needs the libraries that it names, its own and those that are always there apart. -/
theorem mem_requiredLibraries {own l : String} :
    l ∈ h.requiredLibraries own ↔
      h.NamesLibrary l ∧ l ≠ own ∧ l ≠ workLibrary ∧ l ∉ builtinLibraries := by
  simp only [requiredLibraries, Table.mem_textSet, List.mem_filter, List.mem_append,
    List.mem_filterMap, isImplicit, NamesLibrary]
  simp
  tauto

theorem isLocal_iff {own : String} {r : UnitRef} :
    isLocal own r = true ↔
      r.library = none ∨ r.library = some workLibrary ∨ r.library = some own := by
  unfold isLocal
  cases r.library <;> simp

/-- A file refers to the units of its own library that it names. -/
theorem mem_localReferences {own unit : String} :
    unit ∈ h.localReferences own ↔ h.RefersTo own unit := by
  simp only [localReferences, Table.mem_textSet, List.mem_map, List.mem_append, List.mem_filter,
    Bool.and_eq_true, isLocal_iff, RefersTo]
  constructor
  · rintro ⟨r, ⟨hr, hsome, hloc⟩ | ⟨hr, hloc⟩, rfl⟩
    · refine Or.inl ⟨r, hr, rfl, hloc.resolve_left fun hnone => ?_⟩
      simp [hnone] at hsome
    · exact Or.inr ⟨r, hr, rfl, hloc⟩
  · rintro (⟨r, hr, rfl, hloc⟩ | ⟨r, hr, rfl, hloc⟩)
    · refine ⟨r, Or.inl ⟨hr, ?_, Or.inr hloc⟩, rfl⟩
      rcases hloc with hloc | hloc <;> simp [hloc]
    · exact ⟨r, Or.inr ⟨hr, hloc⟩, rfl⟩

end HdlFacts

end RtlFlow
