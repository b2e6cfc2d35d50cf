import RtlFlow.Archive
import RtlFlow.Proofs.PathChildren
import Mathlib.Data.List.Nodup
import Mathlib.Data.List.Range
import Mathlib.Data.Nat.Find

/-! # The names of bundles and of their entries

The name of a bundle is a project, an operation and a time with underscores between them, and
underscores may stand in a project too. An operation does not begin as the tag of failures does, so
the names of what has succeeded and of what has failed in one project stay apart
(`numbered_ne_failed`), whatever the project is called; but a project may be called so that the
names of all its bundles bear the tag (`isTagged_numbered_iff`).

Names with different numbers differ, so among more numbered names than there are taken ones one is
free, and the first of them is found (`freeName_eq`). -/

namespace RtlFlow.Archive

open RtlFlow.Path (IsName)

variable {base name project stamp : String} {operation : Operation} {c : Char} {n m : Nat}

/-! ## The tag of failures -/

/-- **A name with the tag of failures** in front. -/
def IsTagged (name : String) : Prop := (errorTag ++ "_").toList <+: name.toList

instance (name : String) : Decidable (IsTagged name) :=
  inferInstanceAs (Decidable ((errorTag ++ "_").toList <+: name.toList))

/-- A word in which no separator stands, with one behind it, begins a row of words exactly when it
is the first of them, or begins that one. -/
theorem tag_prefix_iff {tag word rest : List Char} (htag : c ∉ tag) :
    tag ++ [c] <+: word ++ c :: rest ↔ word = tag ∨ tag ++ [c] <+: word := by
  induction tag generalizing word with
  | nil => cases word <;> simp
  | cons a tag ih =>
    obtain ⟨hne, htag⟩ := not_or.mp (mt List.mem_cons.mpr htag)
    cases word with
    | nil => simp [List.cons_prefix_cons, Ne.symm hne]
    | cons d word =>
      simp only [List.cons_append, List.cons_prefix_cons, ih htag, List.cons.injEq]
      constructor
      · rintro ⟨rfl, rfl | h⟩
        · exact Or.inl ⟨rfl, rfl⟩
        · exact Or.inr ⟨rfl, h⟩
      · rintro (⟨rfl, rfl⟩ | ⟨rfl, h⟩)
        · exact ⟨rfl, Or.inl rfl⟩
        · exact ⟨rfl, Or.inr h⟩

/-- **A row of words with a tag in front** is not the row without it, unless a word behind the first
one begins as the tag does. -/
theorem tag_append_ne {tag rest more : List Char} (htag : c ∉ tag)
    (hhead : rest.head? ≠ tag.head?) (hne : tag ≠ []) (word : List Char) :
    tag ++ c :: (word ++ c :: more) ≠ word ++ c :: rest := by
  intro heq
  have hprefix : tag ++ [c] <+: word ++ c :: rest := heq ▸ ⟨word ++ c :: more, by simp⟩
  rcases (tag_prefix_iff htag).mp hprefix with rfl | ⟨word', hword⟩
  · -- the first word is the tag, so the next one begins with it
    have hrest := (List.cons.inj (List.append_cancel_left heq)).2
    obtain ⟨a, tag, rfl⟩ := List.exists_cons_of_ne_nil hne
    exact hhead (by rw [← hrest]; rfl)
  · -- the tag is taken off both rows
    have hshort : tag ++ c :: (word' ++ c :: more) = word' ++ c :: rest := by
      simpa [← hword] using heq
    have hlength : word'.length < word.length := by
      rw [← hword, List.length_append, List.length_append, List.length_singleton]
      omega
    exact tag_append_ne htag hhead hne word' hshort
termination_by word.length

/-- **What stands in the name of a bundle**: the project, and behind it something that begins with
the operation. -/
theorem toList_numbered_bundleName (operation : Operation) (project : String) (succeeded : Bool)
    (stamp : String) (n : Nat) :
    ∃ rest, (numbered (bundleName operation project succeeded stamp) n).toList =
      (if succeeded then [] else errorTag.toList ++ ['_']) ++
        ((safeName project).toList ++ '_' :: (operation.keyword.toList ++ rest)) := by
  cases succeeded <;> by_cases hn : n = 0
  all_goals simp [numbered, bundleName, hn, List.append_assoc]

/-- An operation does not begin as the tag does. -/
theorem head?_keyword_ne (operation : Operation) (rest : List Char) :
    (operation.keyword.toList ++ rest).head? ≠ errorTag.toList.head? := by
  cases operation <;> simp [Operation.keyword, errorTag]

theorem isTagged_iff : IsTagged name ↔ errorTag.toList ++ ['_'] <+: name.toList := Iff.rfl

/-- **The name of a bundle bears the tag** when the operation failed, and also when the project is
called so. -/
theorem isTagged_numbered_iff {succeeded : Bool} :
    IsTagged (numbered (bundleName operation project succeeded stamp) n) ↔
      succeeded = false ∨ safeName project = errorTag ∨ IsTagged (safeName project) := by
  obtain ⟨rest, hname⟩ := toList_numbered_bundleName operation project succeeded stamp n
  rw [isTagged_iff, hname]
  cases succeeded
  · simp
  · simp only [if_true, List.nil_append, Bool.true_eq_false, false_or]
    rw [tag_prefix_iff (by decide), isTagged_iff, String.toList_inj]

/-- **What has succeeded and what has failed in one project** have different names. -/
theorem numbered_ne_failed (operation operation' : Operation) (project stamp stamp' : String)
    (n m : Nat) :
    numbered (bundleName operation project true stamp) n ≠
      numbered (bundleName operation' project false stamp') m := by
  intro heq
  obtain ⟨rest, hname⟩ := toList_numbered_bundleName operation project true stamp n
  obtain ⟨rest', hname'⟩ := toList_numbered_bundleName operation' project false stamp' m
  rw [heq, hname'] at hname
  have hwords : errorTag.toList ++ '_' ::
      ((safeName project).toList ++ '_' :: (operation'.keyword.toList ++ rest')) =
        (safeName project).toList ++ '_' :: (operation.keyword.toList ++ rest) := by
    simpa using hname
  exact tag_append_ne (by decide) (head?_keyword_ne operation rest) (by decide) _ hwords

/-! ## Characters of names -/

/-- Letters, digits and underscores make a name. -/
theorem isName_of_isNameChar (hne : name ≠ "") (h : ∀ c ∈ name.toList, isNameChar c = true) :
    IsName name := by
  refine ⟨hne, ?_, ?_, fun hsep => ?_⟩
  · rintro rfl
    exact absurd (h '.' (by decide)) (by decide)
  · rintro rfl
    exact absurd (h '.' (by decide)) (by decide)
  · exact absurd (h '/' hsep) (by decide)

/-- **A project name is made fit**, whatever characters it has. -/
theorem isNameChar_safeName (hc : c ∈ (safeName project).toList) : isNameChar c = true := by
  unfold safeName at hc
  dsimp only at hc
  split at hc
  · exact List.all_eq_true.mp (by decide : defaultProject.toList.all isNameChar = true) c hc
  · rw [String.toList_map] at hc
    obtain ⟨d, -, rfl⟩ := List.mem_map.mp hc
    split
    · assumption
    · decide

theorem isNameChar_keyword (operation : Operation) :
    ∀ c ∈ operation.keyword.toList, isNameChar c = true := by
  cases operation <;> exact List.all_eq_true.mp (by decide)

theorem isNameChar_of_isDigit (hc : c.isDigit = true) : isNameChar c = true := by
  simp [isNameChar, Char.isAlphanum, hc]

/-- A number is written in digits. -/
theorem isDigit_of_mem_toString (hc : c ∈ (toString n).toList) : c.isDigit = true := by
  rw [Nat.toString_eq_repr, Nat.repr_eq_ofList_toDigits, String.toList_ofList] at hc
  exact Nat.isDigit_of_mem_toDigits (by omega) (by omega) hc

/-- **A time made of digits and underscores.** -/
def IsStamp (stamp : String) : Prop := ∀ c ∈ stamp.toList, c.isDigit = true ∨ c = '_'

instance (stamp : String) : Decidable (IsStamp stamp) :=
  decidable_of_iff (stamp.toList.all (fun c => c.isDigit || c = '_') = true)
    (by simp [IsStamp, List.all_eq_true])

/-- **The name of a bundle is the name of an entry**, whatever the project is called. -/
theorem isName_numbered_bundleName (hstamp : IsStamp stamp) (operation : Operation)
    (project : String) (succeeded : Bool) (n : Nat) :
    IsName (numbered (bundleName operation project succeeded stamp) n) := by
  have htag : ∀ c ∈ errorTag.toList, isNameChar c = true := List.all_eq_true.mp (by decide)
  have hbar : ∀ c ∈ "_".toList, isNameChar c = true := List.all_eq_true.mp (by decide)
  have hstamp : ∀ c ∈ stamp.toList, isNameChar c = true := fun c hc =>
    (hstamp c hc).elim isNameChar_of_isDigit fun h => h ▸ (by decide)
  have hnumber : ∀ c ∈ (toString n).toList, isNameChar c = true := fun c hc =>
    isNameChar_of_isDigit (isDigit_of_mem_toString hc)
  have hbase : ∀ c ∈ (bundleName operation project succeeded stamp).toList,
      isNameChar c = true := by
    have hsafe : ∀ c ∈ (safeName project).toList, isNameChar c = true := fun _ =>
      isNameChar_safeName
    have hplain : ∀ c ∈ (safeName project ++ "_" ++ operation.keyword ++ "_" ++ stamp).toList,
        isNameChar c = true := by
      simp only [String.toList_append, List.forall_mem_append]
      exact ⟨⟨⟨⟨hsafe, hbar⟩, isNameChar_keyword operation⟩, hbar⟩, hstamp⟩
    unfold bundleName
    cases succeeded
    · dsimp only
      rw [if_neg (by decide)]
      simp only [String.toList_append, List.forall_mem_append] at hplain ⊢
      exact ⟨⟨htag, hbar⟩, hplain⟩
    · exact hplain
  refine isName_of_isNameChar ?_ ?_
  · obtain ⟨rest, hname⟩ := toList_numbered_bundleName operation project succeeded stamp n
    intro hempty
    rw [hempty] at hname
    simp at hname
  · unfold numbered
    split
    · exact hbase
    · simp only [String.toList_append, List.forall_mem_append]
      exact ⟨⟨hbase, hbar⟩, hnumber⟩

/-! ## Numbers at the end of names -/

/-- Different numbers are written differently. -/
theorem toString_injective : Function.Injective (toString : Nat → String) := by
  intro n m heq
  have hdigits := congrArg (fun s : String => Nat.ofDigitChars 10 s.toList 0) heq
  simpa [Nat.toString_eq_ofList_toDigits] using hdigits

/-- **Names with different numbers differ.** -/
theorem numbered_injective (base : String) : Function.Injective (numbered base) := by
  intro n m heq
  have hlist := congrArg String.toList heq
  unfold numbered at hlist
  by_cases hn : n = 0 <;> by_cases hm : m = 0
  · rw [hn, hm]
  · simp [hn, hm] at hlist
  · simp [hn, hm] at hlist
  · simp only [if_neg hn, if_neg hm, String.toList_append] at hlist
    exact toString_injective (String.toList_inj.mp (List.append_cancel_left hlist))

/-- **A file name cut in two**, the stem and what stands from the last point on. A point at the
start of a name belongs to the stem, and behind the last point nothing need stand. -/
inductive SplitsInto (name : String) : String → String → Prop
  /-- No point stands behind the first character. -/
  | stem (h : '.' ∉ name.toList.tail) : SplitsInto name name ""
  /-- The last point stands behind a stem. -/
  | point {stem extension : String} (hname : name = stem ++ "." ++ extension) (hstem : stem ≠ "")
      (hextension : '.' ∉ extension.toList) : SplitsInto name stem ("." ++ extension)

/-- The two parts of a name make it up. -/
theorem SplitsInto.eq_append {stem ending : String} (h : SplitsInto name stem ending) :
    name = stem ++ ending := by
  cases h with
  | stem => simp
  | point hname => rw [hname, String.append_assoc]

/-- A file name with a mark behind its stem. -/
def marked (name mark : String) : String :=
  let (stem, extension) := Path.splitName name
  stem ++ "_" ++ mark ++ (match extension with | some e => "." ++ e | none => "")

/-- **A mark stands between the stem and the ending.** -/
theorem exists_marked (name : String) :
    ∃ stem ending, SplitsInto name stem ending ∧
      ∀ mark, marked name mark = stem ++ "_" ++ mark ++ ending := by
  rcases Path.splitName_spec name with hsplit | ⟨stem, extension, hsplit, hstem, hname, hpoint⟩
  · exact ⟨name, "", .stem (Path.notMem_tail_of_splitName hsplit), fun mark => by
      simp [marked, hsplit]⟩
  · exact ⟨stem, "." ++ extension, .point hname hstem hpoint, fun mark => by
      simp [marked, hsplit]⟩

/-- A number other than zero is a mark. -/
theorem numberedFile_eq_marked (name : String) (hn : n ≠ 0) :
    numberedFile name n = marked name (toString n) := by
  rw [numberedFile, if_neg hn]
  rfl

/-- What stands in front of a number in a file name, and what behind it. -/
theorem exists_numberedFile (name : String) :
    ∃ stem ending, SplitsInto name stem ending ∧ ∀ n, n ≠ 0 →
      numberedFile name n = stem ++ "_" ++ toString n ++ ending := by
  obtain ⟨stem, ending, hsplit, hmarked⟩ := exists_marked name
  exact ⟨stem, ending, hsplit, fun n hn => by rw [numberedFile_eq_marked name hn, hmarked]⟩

/-- **File names with different numbers differ.** -/
theorem numberedFile_injective (name : String) : Function.Injective (numberedFile name) := by
  obtain ⟨stem, ending, hsplit, hnumber⟩ := exists_numberedFile name
  have hzero : numberedFile name 0 = stem ++ ending := hsplit.eq_append
  have hlength : ∀ k, k ≠ 0 → (numberedFile name 0).length < (numberedFile name k).length := by
    intro k hk
    rw [hzero, hnumber k hk]
    simp only [String.length_append]
    have hbar : "_".length = 1 := rfl
    omega
  intro n m heq
  by_cases hn : n = 0 <;> by_cases hm : m = 0
  · rw [hn, hm]
  · have := hlength m hm
    rw [← hn, heq] at this
    omega
  · have := hlength n hn
    rw [← hm, heq] at this
    omega
  · have hlist := congrArg String.toList ((hnumber n hn).symm.trans (heq.trans (hnumber m hm)))
    simp only [String.toList_append] at hlist
    exact toString_injective (String.toList_inj.mp
      (List.append_cancel_left (List.append_cancel_right hlist)))

/-- A file name with a number is one. -/
theorem isName_numberedFile (h : IsName name) (n : Nat) : IsName (numberedFile name n) := by
  by_cases hn : n = 0
  · simpa [numberedFile, hn] using h
  · obtain ⟨stem, ending, hsplit, hnumber⟩ := exists_numberedFile name
    have hbar : '_' ∈ (numberedFile name n).toList := by simp [hnumber n hn]
    refine ⟨?_, ?_, ?_, ?_⟩
    · rintro hempty
      simp [hempty] at hbar
    · rintro hpoint
      simp [hpoint] at hbar
    · rintro hup
      simp [hup] at hbar
    · have hnoSeparator := h.noSeparator
      rw [hsplit.eq_append, String.toList_append, List.mem_append, not_or] at hnoSeparator
      have hdigits : '/' ∉ (toString n).toList := fun hsep =>
        absurd (isDigit_of_mem_toString hsep) (by decide)
      simp only [hnumber n hn, String.toList_append, List.mem_append, not_or]
      exact ⟨⟨⟨hnoSeparator.1, by decide⟩, hdigits⟩, hnoSeparator.2⟩

/-! ## Free names -/

/-- **Among more different names than there are taken ones** one is free. -/
theorem exists_lt_notMem {α : Type} {f : Nat → α} (hf : Function.Injective f) (taken : List α) :
    ∃ n < taken.length + 1, f n ∉ taken := by
  by_contra hall
  push Not at hall
  have hsubset : (List.range (taken.length + 1)).map f ⊆ taken := by
    intro x hx
    obtain ⟨n, hn, rfl⟩ := List.mem_map.mp hx
    exact hall n (List.mem_range.mp hn)
  have hlength := (List.nodup_range.map hf).length_le_of_subset hsubset
  simp at hlength

/-- **The first of the numbered names that is free** has no greater number than there are taken
names. -/
theorem exists_first_free (taken : List String) (name : String) :
    ∃ k ≤ taken.length, numberedFile name k ∉ taken ∧ ∀ j < k, numberedFile name j ∈ taken := by
  obtain ⟨n, hn, hfree⟩ := exists_lt_notMem (numberedFile_injective name) taken
  have hexists : ∃ n, numberedFile name n ∉ taken := ⟨n, hfree⟩
  have hle : Nat.find hexists ≤ n := Nat.find_min' hexists hfree
  exact ⟨Nat.find hexists, by omega, Nat.find_spec hexists, fun j hj =>
    not_not.mp (Nat.find_min hexists hj)⟩

/-- The name under which a file enters a bundle is the first that is free. -/
theorem freeName_eq {taken : List String} (hn : n ≤ taken.length)
    (hfree : numberedFile name n ∉ taken) (htaken : ∀ m < n, numberedFile name m ∈ taken) :
    freeName taken name = numberedFile name n := by
  have hfind : (List.range (taken.length + 1)).find?
      ((fun s => !taken.contains s) ∘ numberedFile name) = some n := by
    rw [List.find?_range_eq_some]
    exact ⟨by simpa using hfree, List.mem_range.mpr (by omega), fun m hm => by
      simpa using htaken m hm⟩
  rw [freeName, List.find?_map, hfind]
  rfl

/-- **The name under which a file enters a bundle is free**, and is its name with a number. -/
theorem freeName_spec (taken : List String) (name : String) :
    freeName taken name ∉ taken ∧ ∃ n, freeName taken name = numberedFile name n := by
  obtain ⟨n, hn, hfree, htaken⟩ := exists_first_free taken name
  rw [freeName_eq hn hfree htaken]
  exact ⟨hfree, n, rfl⟩

end RtlFlow.Archive
