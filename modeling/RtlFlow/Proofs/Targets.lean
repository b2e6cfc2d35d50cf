import RtlFlow.Proofs.PathIdentity
import RtlFlow.Proofs.Text.Replacement
import RtlFlow.Proofs.Text.Trimming
import RtlFlow.Target

/-! # The texts of targets

Which texts are targets is told by their parts, the trimmed texts between the points: there are two
of them, and neither is empty (`Target.parse_eq_ok_iff`). The rest follows from what trimming and
lower case do to a part. So the text of a target is read as that target, and neither the case of
ASCII letters nor the blanks around a part make a difference (`Target.parse_spec`). -/

namespace RtlFlow

namespace Text

variable {c : Char} {x y cs : List Char}

/-! ## Cutting at a character -/

theorem cutAt?_singleton_cons (c d : Char) (before cs : List Char) :
    cutAt? [c] before (d :: cs) =
      if c = d then some (before.reverse, cs) else cutAt? [c] (d :: before) cs := by
  rw [cutAt?, dropLead?]
  by_cases hcd : c = d
  · rw [if_pos hcd, if_pos hcd, dropLead?]
  · rw [if_neg hcd, if_neg hcd]

/-- A text in which a character does not stand is not cut. -/
theorem cutAt?_singleton_of_notMem (h : c ∉ cs) (before : List Char) :
    cutAt? [c] before cs = none := by
  induction cs generalizing before with
  | nil => rfl
  | cons d cs ih =>
    obtain ⟨hne, hrest⟩ := not_or.mp (mt List.mem_cons.mpr h)
    rw [cutAt?_singleton_cons, if_neg hne, ih hrest]

/-- **A text is cut at the first** of the characters that are looked for. -/
theorem cutAt?_singleton_append (h : c ∉ x) (before y : List Char) :
    cutAt? [c] before (x ++ c :: y) = some (before.reverse ++ x, y) := by
  induction x generalizing before with
  | nil => rw [List.nil_append, cutAt?_singleton_cons, if_pos rfl, List.append_nil]
  | cons d x ih =>
    obtain ⟨hne, hrest⟩ := not_or.mp (mt List.mem_cons.mpr h)
    rw [List.cons_append, cutAt?_singleton_cons, if_neg hne, ih hrest]
    simp

/-- **Two pieces** are what stands on the two sides of the only separator. -/
theorem piecesAt_eq_pair_iff :
    piecesAt c [] cs = [x, y] ↔ cs = x ++ c :: y ∧ c ∉ x ∧ c ∉ y := by
  constructor
  · intro h
    have hnot := notMem_of_mem_piecesAt (List.not_mem_nil : c ∉ []) cs
    rw [h] at hnot
    rw [piecesAt_nil_eq_splitOn] at h
    have hjoin : [c].intercalate (cs.splitOn c) = cs := List.intercalate_splitOn c
    rw [h] at hjoin
    exact ⟨by simpa using hjoin.symm, hnot x (by simp), hnot y (by simp)⟩
  · rintro ⟨rfl, hx, hy⟩
    rw [piecesAt_nil_eq_splitOn, List.splitOn_append_cons_self, List.splitOn_eq_singleton hx,
      List.splitOn_eq_singleton hy]
    rfl

end Text

namespace Target

open Text Text.Unicode

variable {text other : String} {t : Target}

/-- **The parts of a text**: what stands between its points, trimmed. -/
def partsOf (text : String) : List String :=
  (piecesAt '.' [] text.toList).map fun piece => trim (String.ofList piece)

/-- A point is no blank. -/
theorem isBlank_point : isBlank '.' = false := by decide

/-- **Two parts** are what stands on the two sides of the only point, trimmed. -/
theorem partsOf_eq_pair_iff {library entity : String} :
    partsOf text = [library, entity] ↔ ∃ x y, text.toList = x ++ '.' :: y ∧ '.' ∉ x ∧ '.' ∉ y ∧
      trim (String.ofList x) = library ∧ trim (String.ofList y) = entity := by
  rw [partsOf]
  constructor
  · intro h
    obtain ⟨x, pieces, hpieces, hx, hrest⟩ := List.map_eq_cons_iff.mp h
    obtain ⟨y, pieces, rfl, hy, hnil⟩ := List.map_eq_cons_iff.mp hrest
    rw [List.map_eq_nil_iff.mp hnil, piecesAt_eq_pair_iff] at hpieces
    exact ⟨x, y, hpieces.1, hpieces.2.1, hpieces.2.2, hx, hy⟩
  · rintro ⟨x, y, htext, hx, hy, rfl, rfl⟩
    rw [piecesAt_eq_pair_iff.mpr ⟨htext, hx, hy⟩]
    rfl

/-- The characters of a trimmed text with a point in it. -/
theorem toList_trim_of_point {x y : List Char} (h : text.toList = x ++ '.' :: y) :
    (trim text).toList = x.dropWhile isBlank ++ '.' :: y.rdropWhile isBlank := by
  rw [trim, String.toList_ofList, h, trimWhere_append_cons isBlank_point]

theorem trim_ofList_dropWhile (x : List Char) :
    trim (String.ofList (x.dropWhile isBlank)) = trim (String.ofList x) := by
  simp only [trim, String.toList_ofList, trimWhere_dropWhile]

theorem trim_ofList_rdropWhile (x : List Char) :
    trim (String.ofList (x.rdropWhile isBlank)) = trim (String.ofList x) := by
  simp only [trim, String.toList_ofList, trimWhere_rdropWhile]

/-- A part is empty unless something that is no blank stands in it. -/
theorem trim_ofList_ne_iff {x : List Char} :
    trim (String.ofList x) ≠ "" ↔ ∃ c ∈ x, isBlank c = false := by
  rw [← trimWhere_ne_nil_iff, trim, String.toList_ofList, ← String.ofList_nil, ne_eq,
    String.ofList_inj]

/-! ## What is read -/

/-- **A text without a point is no target.** -/
theorem parse_of_notMem (h : '.' ∉ text.toList) : parse text = .error (.invalidTarget text) := by
  have hcut : cutAt? ".".toList [] (trim text).toList = none := by
    refine cutAt?_singleton_of_notMem (c := '.') ?_ []
    rw [trim, String.toList_ofList, mem_trimWhere_iff isBlank_point]
    exact h
  rw [parse, splitFirst?, hcut]
  rfl

/-- **A text is read on the two sides of its first point.** -/
theorem parse_of_point {x y : List Char} (h : text.toList = x ++ '.' :: y) (hx : '.' ∉ x) :
    parse text =
      if trim (String.ofList x) = "" ∨ trim (String.ofList y) = "" ∨ '.' ∈ y then
        .error (.invalidTarget text)
      else .ok ⟨lowercase (trim (String.ofList x)), lowercase (trim (String.ofList y))⟩ := by
  have hcut : cutAt? ".".toList [] (trim text).toList =
      some (x.dropWhile isBlank, y.rdropWhile isBlank) := by
    rw [toList_trim_of_point h]
    exact cutAt?_singleton_append (fun hmem => hx ((List.dropWhile_suffix _).subset hmem)) [] _
  have hpoint : (trim (String.ofList y)).toList.contains '.' = true ↔ '.' ∈ y := by
    rw [List.contains_iff_mem, trim, String.toList_ofList, String.toList_ofList,
      mem_trimWhere_iff isBlank_point]
  rw [parse, splitFirst?, hcut]
  dsimp only [Option.map_some]
  rw [trim_ofList_dropWhile, trim_ofList_rdropWhile]
  refine if_congr ?_ rfl rfl
  rw [Bool.or_eq_true, Bool.or_eq_true, hpoint, String.isEmpty_iff, String.isEmpty_iff, or_assoc]

/-- **A text is a target when it has two parts** and neither is empty; in lower case they are the
target. -/
theorem parse_eq_ok_iff : parse text = .ok t ↔
    ∃ library entity, partsOf text = [library, entity] ∧ library ≠ "" ∧ entity ≠ "" ∧
      t = ⟨lowercase library, lowercase entity⟩ := by
  constructor
  · intro h
    by_cases hpoint : '.' ∈ text.toList
    · obtain ⟨x, y, htext, hx⟩ := List.eq_append_cons_of_mem hpoint
      rw [parse_of_point htext hx] at h
      split at h
      · cases h
      · rename_i hnot
        obtain ⟨hlibrary, hentity, hy⟩ := (not_or.mp hnot).imp_right not_or.mp
        exact ⟨_, _, partsOf_eq_pair_iff.mpr ⟨x, y, htext, hx, hy, rfl, rfl⟩, hlibrary, hentity,
          (Except.ok.inj h).symm⟩
    · rw [parse_of_notMem hpoint] at h
      cases h
  · rintro ⟨library, entity, hparts, hlibrary, hentity, rfl⟩
    obtain ⟨x, y, htext, hx, hy, rfl, rfl⟩ := partsOf_eq_pair_iff.mp hparts
    rw [parse_of_point htext hx, if_neg]
    simp [hlibrary, hentity, hy]

/-- A text that is no target is the error. -/
theorem eq_of_parse_eq_error {e : BuildError} (h : parse text = .error e) :
    e = .invalidTarget text := by
  unfold parse at h
  dsimp only at h
  split at h
  · exact (Except.error.inj h).symm
  · split at h
    · exact (Except.error.inj h).symm
    · cases h

/-- What occurs once stands on neither side of a place where it occurs. -/
theorem notMem_of_count_eq_one {cs x y : List Char} {c : Char} (hcount : cs.count c = 1)
    (h : cs = x ++ c :: y) : c ∉ x ∧ c ∉ y := by
  rw [h, List.count_append, List.count_cons_self] at hcount
  rw [← List.count_eq_zero, ← List.count_eq_zero]
  omega

/-- **A text that writes a target**: trimmed, it has one point, and something that is no blank
stands on each side of it. -/
def WritesTarget (text : String) : Prop :=
  (trim text).toList.count '.' = 1 ∧ ∃ front rest, (trim text).toList = front ++ '.' :: rest ∧
    (∃ c ∈ front, isBlank c = false) ∧ ∃ c ∈ rest, isBlank c = false

/-- **The texts that write targets are read**, and no others. -/
theorem exists_parse_eq_ok_iff : (∃ t, parse text = .ok t) ↔ WritesTarget text := by
  constructor
  · rintro ⟨t, h⟩
    obtain ⟨_, _, hparts, hlibrary, hentity, -⟩ := parse_eq_ok_iff.mp h
    obtain ⟨x, y, htext, hx, hy, rfl, rfl⟩ := partsOf_eq_pair_iff.mp hparts
    rw [← trim_ofList_dropWhile, trim_ofList_ne_iff] at hlibrary
    rw [← trim_ofList_rdropWhile, trim_ofList_ne_iff] at hentity
    have htrim := toList_trim_of_point htext
    refine ⟨?_, _, _, htrim, hlibrary, hentity⟩
    rw [htrim, List.count_append, List.count_cons_self,
      List.count_eq_zero.mpr fun hmem => hx ((List.dropWhile_suffix _).subset hmem),
      List.count_eq_zero.mpr fun hmem => hy ((List.rdropWhile_prefix _ _).subset hmem)]
  · rintro ⟨hcount, front, rest, htrim, hfront, hrest⟩
    have hpoint : '.' ∈ text.toList := by
      rw [← mem_trimWhere_iff isBlank_point, ← String.toList_ofList (l := trimWhere isBlank _)]
      exact htrim ▸ by simp
    obtain ⟨x, y, htext, hx⟩ := List.eq_append_cons_of_mem hpoint
    -- the only point of the trimmed text is the first one of the text
    have hpieces := piecesAt_eq_pair_iff.mpr ⟨htrim, notMem_of_count_eq_one hcount htrim⟩
    have htrim' := toList_trim_of_point htext
    have hnot := notMem_of_count_eq_one hcount htrim'
    rw [piecesAt_eq_pair_iff.mpr ⟨htrim', hnot⟩, List.cons.injEq, List.cons.injEq] at hpieces
    obtain ⟨rfl, rfl, -⟩ := hpieces
    rw [← trim_ofList_ne_iff, trim_ofList_dropWhile] at hfront
    rw [← trim_ofList_ne_iff, trim_ofList_rdropWhile] at hrest
    have hy : '.' ∉ y := by
      rw [← mem_trimWhere_iff isBlank_point, ← trimWhere_rdropWhile,
        mem_trimWhere_iff isBlank_point]
      exact hnot.2
    exact ⟨_, parse_eq_ok_iff.mpr
      ⟨_, _, partsOf_eq_pair_iff.mpr ⟨x, y, htext, hx, hy, rfl, rfl⟩, hfront, hrest, rfl⟩⟩

/-! ## What a target looks like -/

/-- **A part of a target**: a trimmed text in lower case, neither empty nor with a point. -/
structure IsPart (s : String) : Prop where
  /-- It is not empty. -/
  nonempty : s ≠ ""
  /-- It is trimmed. -/
  trimmed : trim s = s
  /-- It is in lower case. -/
  lower : lowercase s = s
  /-- It has no point. -/
  noPoint : '.' ∉ s.toList

/-- **A plain target** is made of two such parts. -/
structure IsPlain (t : Target) : Prop where
  /-- The library is one. -/
  library : IsPart t.library
  /-- The design unit is one. -/
  entity : IsPart t.entity

/-- **A trimmed text without a point is a part in lower case**, unless it is empty. -/
theorem isPart_lowercase {x : List Char} (hx : '.' ∉ x) (hne : trim (String.ofList x) ≠ "") :
    IsPart (lowercase (trim (String.ofList x))) := by
  refine ⟨?_, trim_lowercase_trim _, lowercase_lowercase _, fun hmem => ?_⟩
  · rw [ne_eq, lowercase_eq_empty_iff]
    exact hne
  · rw [lowercase, String.toList_ofList] at hmem
    have hmem := mem_of_mem_lowerFrom (by decide) hmem
    rw [trim, String.toList_ofList, String.toList_ofList, mem_trimWhere_iff isBlank_point] at hmem
    exact hx hmem

/-- **What is read is a plain target.** -/
theorem isPlain_of_parse (h : parse text = .ok t) : t.IsPlain := by
  obtain ⟨_, _, hparts, hlibrary, hentity, rfl⟩ := parse_eq_ok_iff.mp h
  obtain ⟨x, y, htext, hx, hy, rfl, rfl⟩ := partsOf_eq_pair_iff.mp hparts
  exact ⟨isPart_lowercase hx hlibrary, isPart_lowercase hy hentity⟩

/-- The text of a plain target has its parts. -/
theorem IsPlain.partsOf_render (h : t.IsPlain) : partsOf t.render = [t.library, t.entity] := by
  refine partsOf_eq_pair_iff.mpr ⟨t.library.toList, t.entity.toList, ?_, h.library.noPoint,
    h.entity.noPoint, ?_, ?_⟩
  · simp [render]
  · rw [String.ofList_toList, h.library.trimmed]
  · rw [String.ofList_toList, h.entity.trimmed]

/-- **A plain target is read off its own text.** -/
theorem IsPlain.parse_render (h : t.IsPlain) : parse t.render = .ok t :=
  parse_eq_ok_iff.mpr ⟨_, _, h.partsOf_render, h.library.nonempty, h.entity.nonempty,
    by rw [h.library.lower, h.entity.lower]⟩

/-! ## Texts of one target -/

/-- **Texts with the same parts** but for the case of ASCII letters; the blanks around a part do not
belong to it. -/
def SameParts (text other : String) : Prop :=
  (partsOf text).map asciiLowercase = (partsOf other).map asciiLowercase

instance (text other : String) : Decidable (SameParts text other) :=
  inferInstanceAs (Decidable (_ = _))

/-- **Texts with the same parts are the same target.** -/
theorem parse_eq_ok_of_sameParts (h : SameParts text other) (ht : parse text = .ok t) :
    parse other = .ok t := by
  obtain ⟨library, entity, hparts, hlibrary, hentity, rfl⟩ := parse_eq_ok_iff.mp ht
  rw [SameParts, hparts] at h
  obtain ⟨library', parts, hother, hl, hrest⟩ := List.map_eq_cons_iff.mp h.symm
  obtain ⟨entity', parts, rfl, he, hnil⟩ := List.map_eq_cons_iff.mp hrest
  rw [List.map_eq_nil_iff.mp hnil] at hother
  -- what is the same with small letters is empty only if both are, and has one lower case
  refine parse_eq_ok_iff.mpr ⟨library', entity', hother, ?_, ?_, ?_⟩
  · rwa [ne_eq, ← asciiLowercase_eq_empty_iff, hl, asciiLowercase_eq_empty_iff]
  · rwa [ne_eq, ← asciiLowercase_eq_empty_iff, he, asciiLowercase_eq_empty_iff]
  · rw [← lowercase_asciiLowercase library, ← lowercase_asciiLowercase entity, ← hl, ← he,
      lowercase_asciiLowercase, lowercase_asciiLowercase]

/-! ## Every text -/

/-- **Which texts are targets, and which target they are.** -/
theorem parse_spec (text : String) :
    ((∃ t, parse text = .ok t) ↔ WritesTarget text) ∧
      (∀ t, parse text = .ok t → t.IsPlain ∧
        [t.library, t.entity] = (partsOf text).map lowercase ∧ parse t.render = .ok t) ∧
      (∀ e, parse text = .error e → e = .invalidTarget text) ∧
      ∀ other, SameParts text other → ∀ t, parse other = .ok t ↔ parse text = .ok t := by
  refine ⟨exists_parse_eq_ok_iff, fun t h => ?_, fun e => eq_of_parse_eq_error, fun other h t => ?_⟩
  · have hplain := isPlain_of_parse h
    obtain ⟨_, _, hparts, -, -, rfl⟩ := parse_eq_ok_iff.mp h
    exact ⟨hplain, by rw [hparts]; rfl, hplain.parse_render⟩
  · exact ⟨parse_eq_ok_of_sameParts h.symm, parse_eq_ok_of_sameParts h⟩

/-- A final sigma is one whatever the case of the letter before it. -/
theorem parse_spec_finalSigma :
    ∃ t, parse "\tLib . a\u03A3 " = .ok t ∧ SameParts "\tLib . a\u03A3 " "lIB.A\u03A3" ∧
      t = ⟨"lib", "a\u03C2"⟩ ∧ WritesTarget "\tLib . a\u03A3 " ∧ parse t.render = .ok t ∧
      parse "lIB.A\u03A3" = .ok t := by
  have hread : parse "\tLib . a\u03A3 " = .ok ⟨"lib", "a\u03C2"⟩ := by decide +kernel
  have hsame : SameParts "\tLib . a\u03A3 " "lIB.A\u03A3" := by decide +kernel
  obtain ⟨hwrites, hform, -, hothers⟩ := parse_spec "\tLib . a\u03A3 "
  exact ⟨_, hread, hsame, rfl, hwrites.mp ⟨_, hread⟩, (hform _ hread).2.2,
    (hothers _ hsame _).mpr hread⟩

end Target

end RtlFlow
