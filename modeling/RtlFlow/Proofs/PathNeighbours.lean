import RtlFlow.Proofs.PathIdentity
import Mathlib.Data.List.DropRight
import Mathlib.Data.List.Induction
import Mathlib.Data.List.TakeWhile

/-! # The neighbours of a file

A path with a file name is followed through the segments before the name to the name itself. With
another extension it is followed through the same segments to another name, as long as there is a
point in that extension, since no name has such a one (`beside_withExtension`). Its directory is
reached through the first of these segments (`parent?_spec`). -/

namespace RtlFlow

namespace Path

variable {p q : Path} {name ext : String}

/-! ## Writing parts -/

/-- The segment in front of the others that parts write. -/
def Parts.lead (q : Parts) : List String := if q.rooted then [] else if q.dotted then ["."] else []

/-- A text is its pieces with separators between them. -/
theorem intercalate_pieces (s : String) :
    "/".intercalate ((Text.piecesAt '/' [] s.toList).map String.ofList) = s := by
  have hid : String.toList ∘ String.ofList = id := by
    funext cs
    simp
  rw [← String.toList_inj, String.toList_intercalate, List.map_map, hid, List.map_id,
    Text.piecesAt_nil_eq_splitOn]
  exact List.intercalate_splitOn '/'

/-- A row of texts behind another one, with a separator where both are there. -/
theorem intercalate_cons (s : String) (texts : List String) :
    "/".intercalate (s :: texts) =
      if texts.isEmpty then s else s ++ "/" ++ "/".intercalate texts := by
  cases texts with
  | nil => simp
  | cons t texts =>
    rw [String.intercalate_cons_cons]
    rfl

/-- **The text of a path is what its parts write.** -/
theorem render_parts (p : Path) : p.parts.render = p := by
  have htext := intercalate_pieces p.text
  obtain ⟨text⟩ := p
  unfold parts
  dsimp only at htext ⊢
  split
  · rename_i rest heq
    rw [heq, List.map_cons, intercalate_cons] at htext
    cases rest with
    | nil => simpa [Parts.render] using htext
    | cons piece rest => simpa [Parts.render] using htext
  · rename_i rest heq
    rw [heq, List.map_cons, intercalate_cons] at htext
    cases rest with
    | nil => simpa [Parts.render] using htext
    | cons piece rest => simpa [Parts.render] using htext
  · simpa [Parts.render] using htext

/-- **The segments of a path** are those of its parts that are not empty. -/
theorem segments_eq (p : Path) :
    p.segments = p.parts.lead ++ p.parts.body.filter (· ≠ "") := by
  unfold segments parts
  split
  · rename_i rest heq
    rw [heq]
    cases rest <;> simp [Parts.lead]
  · rename_i rest heq
    rw [heq]
    simp [Parts.lead]
  · simp [Parts.lead]

/-- The segments of a row of texts without separators. -/
theorem filter_pieces_intercalate {texts : List String} (h : ∀ s ∈ texts, '/' ∉ s.toList) :
    ((Text.piecesAt '/' [] ("/".intercalate texts).toList).map String.ofList).filter (· ≠ "") =
      texts.filter (· ≠ "") := by
  by_cases hne : texts = []
  · subst hne
    decide
  · rw [show "/" = String.singleton '/' from rfl, Text.piecesAt_intercalate hne h,
      Text.map_ofList_map_toList]

/-- **What parts write is followed by the segments of the parts.** -/
theorem segments_render {q : Parts} (h : ∀ s ∈ q.body, '/' ∉ s.toList) :
    q.render.segments = q.lead ++ q.body.filter (· ≠ "") := by
  obtain ⟨rooted, dotted, body⟩ := q
  have hbody := filter_pieces_intercalate h
  unfold segments Parts.render Parts.lead
  cases rooted
  · cases dotted
    · simpa using hbody
    · cases body with
      | nil => decide
      | cons s body => simpa [Text.piecesAt] using hbody
  · simpa [Text.piecesAt] using hbody

/-- The text of parts in front of others begins that of all of them. -/
theorem exists_text_render_append (q : Parts) (more : List String) :
    ∃ rest, ({ q with body := q.body ++ more } : Parts).render.text = q.render.text ++ rest := by
  obtain ⟨rooted, dotted, body⟩ := q
  have hrow : ∃ rest, "/".intercalate (body ++ more) = "/".intercalate body ++ rest := by
    by_cases hbody : body = []
    · exact ⟨"/".intercalate more, by simp [hbody]⟩
    · by_cases hmore : more = []
      · exact ⟨"", by simp [hmore]⟩
      · exact ⟨_, by rw [String.intercalate_append_of_ne_nil hbody hmore, String.append_assoc]⟩
  obtain ⟨rest, hrest⟩ := hrow
  unfold Parts.render
  cases rooted
  · cases dotted
    · exact ⟨rest, hrest⟩
    · cases body with
      | nil =>
        cases more with
        | nil => exact ⟨"", by simp⟩
        | cons s more => exact ⟨"/" ++ "/".intercalate (s :: more), rfl⟩
      | cons s body => exact ⟨rest, by simpa [String.append_assoc] using hrest⟩
  · exact ⟨rest, by simp [hrest, String.append_assoc]⟩

/-- **Parts that write an absolute path** when they begin with a separator, which a first segment
without text would also write. -/
theorem isAbsolute_render {q : Parts} (hsep : ∀ s ∈ q.body, '/' ∉ s.toList)
    (hfirst : q.rooted = false → q.dotted = false → q.body.head? ≠ some "") :
    q.render.isAbsolute = q.rooted := by
  obtain ⟨rooted, dotted, body⟩ := q
  cases rooted
  · cases dotted
    · cases body with
      | nil => rfl
      | cons s body =>
        -- the first piece is the first segment, so the text does not begin with a separator
        have hs : s ≠ "" := by simpa using hfirst rfl rfl
        have hpieces := Text.piecesAt_intercalate (List.cons_ne_nil s body) hsep
        unfold isAbsolute parts Parts.render
        simp only [Bool.false_eq_true, if_false]
        rw [show "/" = String.singleton '/' from rfl, hpieces]
        split
        · rename_i heq
          exact absurd (String.toList_eq_nil_iff.mp (List.cons.inj heq).1) hs
        · rfl
        · rfl
    · cases body with
      | nil => rfl
      | cons s body =>
        unfold isAbsolute parts Parts.render
        simp [Text.piecesAt]
  · show (⟨"/" ++ "/".intercalate body⟩ : Path).parts.rooted = true
    rw [parts_rooted]

/-- The first segment of a path without a segment in front is not empty. -/
theorem head?_body_parts (p : Path) (hrooted : p.parts.rooted = false)
    (hdotted : p.parts.dotted = false) : p.parts.body.head? ≠ some "" := by
  revert hrooted hdotted
  unfold parts
  split
  · rename_i rest heq
    cases rest <;> simp
  · simp
  · rename_i hempty hdot
    cases hpieces : Text.piecesAt '/' [] p.text.toList with
    | nil => simp
    | cons piece rest =>
      have hne : piece ≠ [] := fun h => hempty rest (by rw [hpieces, h])
      simpa using hne

/-! ## The last name -/

theorem trimFillers_append {before fillers : List String} (hname : isFiller name = false)
    (hfillers : ∀ s ∈ fillers, isFiller s = true) :
    trimFillers (before ++ name :: fillers) = before ++ [name] := by
  unfold trimFillers
  rw [List.reverse_append, List.reverse_cons, List.append_assoc,
    List.dropWhile_append_of_pos (by simpa using hfillers), List.singleton_append,
    List.dropWhile_cons_of_neg (by simp [hname])]
  simp

/-- Segments are fillers, or the last one that is not stands in front of fillers only. -/
theorem fillers_or_exists_last (body : List String) :
    (∀ s ∈ body, isFiller s = true) ∨ ∃ before s fillers, body = before ++ s :: fillers ∧
      isFiller s = false ∧ ∀ t ∈ fillers, isFiller t = true := by
  induction body using List.reverseRecOn with
  | nil => exact Or.inl (by simp)
  | append_singleton body s ih =>
    cases hs : isFiller s
    · exact Or.inr ⟨body, s, [], rfl, hs, by simp⟩
    · rcases ih with hall | ⟨before, t, fillers, rfl, ht, hfillers⟩
      · exact Or.inl (List.forall_mem_append.mpr ⟨hall, by simpa using hs⟩)
      · exact Or.inr ⟨before, t, fillers ++ [s], by simp, ht,
          List.forall_mem_append.mpr ⟨hfillers, by simpa using hs⟩⟩

/-- **A path with a file name** is that name in the middle of its parts, behind which only fillers
stand. -/
structure HasName (p : Path) (before : List String) (name : String) (fillers : List String) :
    Prop where
  /-- The parts in order. -/
  body : p.parts.body = before ++ name :: fillers
  /-- The name writes a component. -/
  not_filler : isFiller name = false
  /-- The name does not lead up. -/
  ne_up : name ≠ ".."
  /-- Behind the name stand fillers. -/
  fillers : ∀ s ∈ fillers, isFiller s = true
  /-- The name is the file name. -/
  fileName : p.fileName? = some name

theorem exists_hasName (h : p.fileName? = some name) :
    ∃ before fillers, p.HasName before name fillers := by
  have hlast : p.components.getLast? = some (.name name) := by
    unfold fileName? at h
    split at h
    · rename_i heq
      rw [heq, Option.some.inj h]
    · cases h
  unfold components at hlast
  rcases fillers_or_exists_last p.parts.body with hall | ⟨before, s, fillers, hbody, hs, hfillers⟩
  · -- without names only the root or a point is left
    have hnone : p.parts.body.filter (fun s => !isFiller s) = [] := by
      simpa [List.filter_eq_nil_iff] using hall
    simp only [hnone, List.map_nil, List.append_nil] at hlast
    split at hlast
    · cases hlast
    · split at hlast <;> cases hlast
  · have hnone : fillers.filter (fun s => !isFiller s) = [] := by
      simpa [List.filter_eq_nil_iff] using hfillers
    simp only [hbody, List.filter_append, List.filter_cons, hs, hnone, Bool.not_false, if_true,
      List.map_append, List.map_cons, List.map_nil, ← List.append_assoc, List.getLast?_concat,
      Option.some.injEq] at hlast
    have hname : s = name ∧ s ≠ ".." := by
      unfold componentOf at hlast
      split at hlast
      · cases hlast
      · rename_i hup
        exact ⟨Component.name.inj hlast, by simpa using hup⟩
    obtain ⟨rfl, hup⟩ := hname
    exact ⟨before, fillers, hbody, hs, hup, hfillers, h⟩

/-! ## Names with another extension -/

/-- The characters of a name stand around its last point. -/
theorem splitAtLastPoint?_spec {cs stem ext : List Char}
    (h : splitAtLastPoint? cs = some (stem, ext)) : cs = stem ++ '.' :: ext ∧ '.' ∉ ext := by
  unfold splitAtLastPoint? at h
  simp only [Option.ite_none_right_eq_some, Option.some.injEq, Prod.mk.injEq] at h
  obtain ⟨hlength, rfl, rfl⟩ := h
  have hsplit := List.takeWhile_append_dropWhile (p := fun c => decide (c ≠ '.')) (l := cs.reverse)
  have hpoint : '.' ∉ cs.reverse.takeWhile fun c => decide (c ≠ '.') :=
    fun hmem => by simpa using List.mem_takeWhile_imp hmem
  have hhead := List.head?_dropWhile_not (fun c => decide (c ≠ '.')) cs.reverse
  -- what is taken from the end of the name is its extension, and the next character is a point
  generalize cs.reverse.takeWhile (fun c => decide (c ≠ '.')) = tail at *
  cases hdrop : cs.reverse.dropWhile (fun c => decide (c ≠ '.')) with
  | nil =>
    rw [hdrop, List.append_nil] at hsplit
    simp [hsplit] at hlength
  | cons c before =>
    rw [hdrop] at hsplit hhead
    obtain rfl : c = '.' := by simpa using hhead
    have hcs : cs = before.reverse ++ '.' :: tail.reverse := by
      rw [← List.reverse_inj, ← hsplit]
      simp
    have hstem : cs.take (cs.length - tail.reverse.length - 1) = before.reverse := by
      rw [hcs]
      refine List.take_left' ?_
      rw [List.length_append, List.length_cons]
      omega
    exact ⟨by rw [hstem]; exact hcs, by simpa using hpoint⟩

/-- A name is cut unless no point stands in it. -/
theorem notMem_of_splitAtLastPoint?_eq_none {cs : List Char} (h : splitAtLastPoint? cs = none) :
    '.' ∉ cs := by
  unfold splitAtLastPoint? at h
  simp only [ite_eq_right_iff, reduceCtorEq, imp_false, not_lt, List.length_reverse] at h
  have hprefix := List.takeWhile_prefix (fun c => decide (c ≠ '.')) (l := cs.reverse)
  have hall := hprefix.eq_of_length_le (by simpa using h)
  intro hmem
  rw [← List.mem_reverse, ← hall] at hmem
  simpa using List.mem_takeWhile_imp hmem

/-- **A name without an extension** has no point behind its first character. -/
theorem notMem_tail_of_splitName {s : String} (h : splitName s = (s, none)) :
    '.' ∉ s.toList.tail := by
  unfold splitName at h
  split at h
  · cases h
  · rename_i hcut
    cases hsplit : splitAtLastPoint? s.toList with
    | none => exact fun hmem =>
        notMem_of_splitAtLastPoint?_eq_none hsplit (List.mem_of_mem_tail hmem)
    | some cut =>
      obtain ⟨_ | ⟨c, cs⟩, ext⟩ := cut
      · obtain ⟨hs, hpoint⟩ := splitAtLastPoint?_spec hsplit
        rw [hs]
        exact hpoint
      · exact absurd hsplit (hcut c cs ext)

/-- **A name is its stem, and its extension behind a point.** There is no point in the extension. -/
theorem splitName_spec (s : String) :
    (splitName s = (s, none)) ∨ ∃ stem ext, splitName s = (stem, some ext) ∧ stem ≠ "" ∧
      s = stem ++ "." ++ ext ∧ '.' ∉ ext.toList := by
  unfold splitName
  split
  · rename_i c cs ext heq
    obtain ⟨hs, hpoint⟩ := splitAtLastPoint?_spec heq
    refine Or.inr ⟨_, _, rfl, ?_, ?_, by simpa using hpoint⟩
    · rw [ne_eq, ← String.toList_eq_nil_iff]
      simp
    · rw [← String.toList_inj, hs]
      simp
  · exact Or.inl rfl

/-- **Another name**: no name has an extension with a point in it. -/
theorem ne_of_splitName (s : String) (h : '.' ∈ ext.toList) :
    (splitName s).1 ++ "." ++ ext ≠ s := by
  intro heq
  rcases splitName_spec s with hsplit | ⟨stem, ext', hsplit, -, hs, hpoint⟩
  · rw [hsplit] at heq
    have hlength := congrArg (fun s => s.toList.length) heq
    simp at hlength
  · rw [hsplit] at heq
    have hext : ext = ext' := by
      rw [← String.toList_inj]
      have htexts := congrArg String.toList (heq.trans hs)
      simpa using htexts
    exact hpoint (hext ▸ h)

/-- A name with another extension has more than two characters, so it is no point and does not lead
up. -/
theorem ne_points_of_splitName {s : String} (hs : s ≠ "") (h : ext ≠ "") :
    (splitName s).1 ++ "." ++ ext ≠ "." ∧ (splitName s).1 ++ "." ++ ext ≠ ".." := by
  have hstem : (splitName s).1 ≠ "" := by
    rcases splitName_spec s with hsplit | ⟨stem, ext', hsplit, hstem, -⟩ <;> rw [hsplit]
    · exact hs
    · exact hstem
  have hlength : 2 < ((splitName s).1 ++ "." ++ ext).toList.length := by
    have hone := List.length_pos_iff.mpr (mt String.toList_eq_nil_iff.mp hstem)
    have htwo := List.length_pos_iff.mpr (mt String.toList_eq_nil_iff.mp h)
    simp only [String.toList_append, List.length_append]
    have hpoint : ".".toList.length = 1 := rfl
    omega
  constructor
  · intro heq
    rw [heq] at hlength
    exact absurd hlength (by decide)
  · intro heq
    rw [heq] at hlength
    exact absurd hlength (by decide)

/-! ## The file beside and the directory above -/

variable {before fillers : List String}

namespace HasName

theorem noSeparator (h : p.HasName before name fillers) : ∀ s ∈ before, '/' ∉ s.toList :=
  fun _ hs => mem_body_parts (h.body ▸ List.mem_append_left _ hs)

/-- The name is neither empty nor a point, and does not lead up. -/
theorem ne (h : p.HasName before name fillers) : name ≠ "" ∧ name ≠ "." ∧ name ≠ ".." := by
  have hname := h.not_filler
  simp only [isFiller, Bool.or_eq_false_iff, beq_eq_false_iff_ne] at hname
  exact ⟨hname.1, hname.2, h.ne_up⟩

/-- **Where the path leads**: through the segments in front of the name to the name, behind which
points may stand. -/
theorem segments_eq (h : p.HasName before name fillers) :
    ∃ points, (∀ s ∈ points, s = ".") ∧
      p.segments = p.parts.lead ++ before.filter (· ≠ "") ++ name :: points := by
  refine ⟨fillers.filter (· ≠ ""), fun s hs => ?_, ?_⟩
  · obtain ⟨hmem, hne⟩ := List.mem_filter.mp hs
    have hfiller := h.fillers s hmem
    simp only [isFiller, Bool.or_eq_true, beq_iff_eq] at hfiller
    exact hfiller.resolve_left (by simpa using hne)
  · rw [Path.segments_eq, h.body]
    simp [h.ne.1]

/-- The parts in front of the name may begin as those of the path. -/
theorem head?_before (h : p.HasName before name fillers) (hrooted : p.parts.rooted = false)
    (hdotted : p.parts.dotted = false) : before.head? ≠ some "" := by
  have hfirst := head?_body_parts p hrooted hdotted
  rw [h.body] at hfirst
  cases before with
  | nil => simp
  | cons s before => simpa using hfirst

/-- The path with another extension has another name behind the same segments. -/
theorem withExtension_eq (h : p.HasName before name fillers) (ext : String) :
    p.withExtension ext =
      ({ p.parts with body := before ++ [(splitName name).1 ++ "." ++ ext] } : Parts).render := by
  unfold withExtension stem?
  simp [h.fileName, h.body, trimFillers_append h.not_filler h.fillers]

/-- The directory is written by the parts in front of the name. -/
theorem parent?_eq (h : p.HasName before name fillers) :
    p.parent? = some ({ p.parts with body := trimFillers before } : Parts).render := by
  unfold parent?
  simp [h.body, trimFillers_append h.not_filler h.fillers]

end HasName

/-- **Two files side by side**: the paths lead through the same segments to two names. -/
structure Beside (p q : Path) : Prop where
  /-- Behind the name of the first file points may stand. -/
  segments : ∃ dirs name other points, p.segments = dirs ++ name :: points ∧
    q.segments = dirs ++ [other] ∧ (∀ s ∈ points, s = ".") ∧ other ≠ name ∧
    (name ≠ "." ∧ name ≠ "..") ∧ other ≠ "." ∧ other ≠ ".."
  /-- Both begin at the root, or none does. -/
  isAbsolute : q.isAbsolute = p.isAbsolute

/-- There is no separator in a name with another extension. -/
theorem HasName.noSeparator_other (h : p.HasName before name fillers) (hsep : '/' ∉ ext.toList) :
    ∀ s ∈ before ++ [(splitName name).1 ++ "." ++ ext], '/' ∉ s.toList := by
  have hmem : name ∈ p.parts.body := by
    rw [h.body]
    simp
  have hname : '/' ∉ name.toList := mem_body_parts hmem
  have hstem : '/' ∉ (splitName name).1.toList := by
    rcases splitName_spec name with hsplit | ⟨stem, ext', hsplit, -, heq, -⟩ <;> rw [hsplit]
    · exact hname
    · rw [heq] at hname
      exact fun hmem => hname (by simp [hmem])
  refine List.forall_mem_append.mpr ⟨h.noSeparator, List.forall_mem_singleton.mpr ?_⟩
  simp [hstem, hsep]

/-- **A path with another extension leads to a file beside** that of the path, when there is a
point in the extension. -/
theorem beside_withExtension (h : p.fileName? = some name) (hsep : '/' ∉ ext.toList)
    (hpoint : '.' ∈ ext.toList) : p.Beside (p.withExtension ext) := by
  obtain ⟨before, fillers, hname⟩ := exists_hasName h
  obtain ⟨points, hpoints, hsegments⟩ := hname.segments_eq
  have hne : ext ≠ "" := by
    rintro rfl
    simp at hpoint
  rw [hname.withExtension_eq]
  constructor
  · refine ⟨_, name, (splitName name).1 ++ "." ++ ext, points, hsegments, ?_, hpoints,
      ne_of_splitName name hpoint, hname.ne.2, ne_points_of_splitName hname.ne.1 hne⟩
    rw [segments_render (hname.noSeparator_other hsep), List.filter_append,
      List.filter_cons_of_pos (by simp), ← List.append_assoc]
    rfl
  · refine isAbsolute_render (hname.noSeparator_other hsep) fun hrooted hdotted => ?_
    have hfirst := hname.head?_before hrooted hdotted
    cases before with
    | nil => simp
    | cons s before => simpa using hfirst

/-- **The directory of a path** is written at the front of its text, and reached through the first
of its segments. -/
theorem parent?_spec (h : p.fileName? = some name) (hq : p.parent? = some q) :
    (∃ more ≠ [], p.segments = q.segments ++ more) ∧ q.isAbsolute = p.isAbsolute ∧
      ∃ rest, p.text = q.text ++ rest := by
  obtain ⟨before, fillers, hname⟩ := exists_hasName h
  rw [hname.parent?_eq] at hq
  obtain rfl := Option.some.inj hq
  -- the directory has the parts in front of the name, but for the fillers at their end
  obtain ⟨dropped, hdropped⟩ : trimFillers before <+: before :=
    List.rdropWhile_prefix isFiller before
  have hsep : ∀ s ∈ trimFillers before, '/' ∉ s.toList := fun s hs =>
    hname.noSeparator s (hdropped ▸ List.mem_append_left _ hs)
  refine ⟨?_, ?_, ?_⟩
  · obtain ⟨points, -, hsegments⟩ := hname.segments_eq
    refine ⟨dropped.filter (· ≠ "") ++ name :: points, by simp, ?_⟩
    rw [hsegments, segments_render hsep]
    conv_lhs => rw [← hdropped]
    simp [Parts.lead]
  · refine isAbsolute_render hsep fun hrooted hdotted => ?_
    have hfirst := hname.head?_before hrooted hdotted
    rw [← hdropped] at hfirst
    show (trimFillers before).head? ≠ some ""
    cases hbefore : trimFillers before with
    | nil => simp
    | cons s rest =>
      rw [hbefore] at hfirst
      simpa using hfirst
  · have htext := exists_text_render_append { p.parts with body := trimFillers before }
      (dropped ++ name :: fillers)
    have hbody : trimFillers before ++ (dropped ++ name :: fillers) = p.parts.body := by
      rw [← List.append_assoc, hdropped, hname.body]
    dsimp only at htext
    rw [hbody] at htext
    obtain ⟨rest, hrest⟩ := htext
    exact ⟨rest, (congrArg Path.text (render_parts p)).symm.trans hrest⟩

end Path

end RtlFlow
