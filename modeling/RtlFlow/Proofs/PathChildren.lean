import RtlFlow.Proofs.PathNeighbours

/-! # Paths into a directory

A relative path taken from another one is followed through the segments of that one and then through
its own (`segments_join`). A text that is neither empty nor a point nor leads up, and in which no
separator stands, is one segment (`IsName`), so the path of a child is followed one name further. -/

namespace RtlFlow

namespace Path

variable {p q : Path} {name other : String}

/-! ## Taking one path from another -/

/-- A path is absolute when its text begins with a separator. -/
theorem isAbsolute_iff : p.isAbsolute = true ↔ p.text.toList.head? = some '/' := by
  obtain ⟨text⟩ := p
  cases hcs : text.toList with
  | nil =>
    obtain rfl : text = "" := String.toList_eq_nil_iff.mp hcs
    decide
  | cons c cs =>
    have htext : text = String.singleton c ++ String.ofList cs := by
      rw [← String.toList_inj, hcs]
      simp
    by_cases hc : c = '/'
    · subst hc
      rw [isAbsolute, htext, show String.singleton '/' = "/" from rfl, parts_rooted]
      simp
    · -- the first piece begins with the first character
      obtain ⟨first, rest, hfirst⟩ := List.exists_cons_of_ne_nil (List.splitOn_ne_nil '/' cs)
      have hpieces : Text.piecesAt '/' [] text.toList = (c :: first) :: rest := by
        rw [hcs, Text.piecesAt, if_neg hc, Text.piecesAt_eq_modifyHead, hfirst]
        rfl
      have hrooted : (⟨text⟩ : Path).parts.rooted = false := by
        unfold parts
        rw [hpieces]
        split
        · rename_i heq
          cases (List.cons.inj heq).1
        · rfl
        · rfl
      simpa [isAbsolute, hrooted] using hc

/-- Behind a separator the segments go on. -/
theorem segments_append_separator (s u : String) :
    (⟨s ++ "/" ++ u⟩ : Path).segments = (⟨s⟩ : Path).segments ++ (⟨u⟩ : Path).segments := by
  have hlist : (s ++ "/" ++ u).toList = s.toList ++ '/' :: u.toList := by simp
  unfold segments
  simp only [hlist, Text.piecesAt_nil_eq_splitOn, List.splitOn_append_cons_self, List.map_append,
    List.filter_append]

/-- Behind a separator the parts go on, whatever stands in front. -/
theorem exists_body_append_separator (s u : String) :
    ∃ before, (⟨s ++ "/" ++ u⟩ : Path).parts.body =
      before ++ (Text.piecesAt '/' [] u.toList).map String.ofList := by
  have hpieces : Text.piecesAt '/' [] (s ++ "/" ++ u).toList =
      Text.piecesAt '/' [] s.toList ++ Text.piecesAt '/' [] u.toList := by
    have hlist : (s ++ "/" ++ u).toList = s.toList ++ '/' :: u.toList := by simp
    rw [hlist, Text.piecesAt_nil_eq_splitOn, List.splitOn_append_cons_self,
      Text.piecesAt_nil_eq_splitOn, Text.piecesAt_nil_eq_splitOn]
  obtain ⟨first, rest, hfirst⟩ := List.exists_cons_of_ne_nil (Text.piecesAt_ne_nil '/' [] s.toList)
  have hne : rest ++ Text.piecesAt '/' [] u.toList ≠ [] :=
    List.append_ne_nil_of_right_ne_nil _ (Text.piecesAt_ne_nil '/' [] u.toList)
  rw [hfirst, List.cons_append] at hpieces
  unfold parts
  dsimp only
  rw [hpieces]
  split
  · rename_i heq
    obtain ⟨-, rfl⟩ := List.cons.inj heq
    rw [if_neg (by simpa using hne)]
    exact ⟨rest.map String.ofList, by simp⟩
  · rename_i heq
    obtain ⟨-, rfl⟩ := List.cons.inj heq
    exact ⟨rest.map String.ofList, by simp⟩
  · exact ⟨(first :: rest).map String.ofList, by simp⟩

/-- **How a relative path is taken from another one**: it stands behind nothing, or behind a
separator. -/
theorem join_cases (p : Path) (hq : q.isAbsolute = false) :
    (p.text = "" ∧ p.join q = q) ∨
      ∃ front, (p.text = front ∨ p.text = front ++ "/") ∧ p.text ≠ "" ∧
        p.join q = ⟨front ++ "/" ++ q.text⟩ := by
  unfold join
  rw [if_neg (by simp [hq])]
  by_cases hempty : p.text = ""
  · exact Or.inl ⟨hempty, by simp [hempty]⟩
  · refine Or.inr ?_
    by_cases hlast : p.text.toList.getLast? = some '/'
    · obtain ⟨cs, hcs⟩ := List.getLast?_eq_some_iff.mp hlast
      have htext : p.text = String.ofList cs ++ "/" := by
        rw [← String.toList_inj, hcs]
        simp
      exact ⟨_, Or.inr htext, hempty, by rw [if_pos (by simp [hlast]), htext]⟩
    · exact ⟨p.text, Or.inl rfl, hempty, by simp [hempty, hlast]⟩

/-- **A path taken from another one** is followed through the segments of both. -/
theorem segments_join (hq : q.isAbsolute = false) :
    (p.join q).segments = p.segments ++ q.segments := by
  have hnone : (⟨""⟩ : Path).segments = [] := by decide
  rcases join_cases p hq with ⟨hempty, hjoin⟩ | ⟨front, hfront, -, hjoin⟩
  · obtain ⟨text⟩ := p
    obtain rfl : text = "" := hempty
    rw [hjoin, hnone, List.nil_append]
  · rw [hjoin, segments_append_separator]
    congr 1
    obtain ⟨text⟩ := p
    rcases hfront with rfl | rfl
    · rfl
    · have happend := segments_append_separator front ""
      rw [hnone, List.append_nil, String.append_empty] at happend
      exact happend.symm

/-- A path from which a relative one is taken stays absolute or relative. -/
theorem isAbsolute_join (hq : q.isAbsolute = false) : (p.join q).isAbsolute = p.isAbsolute := by
  rcases join_cases p hq with ⟨hempty, hjoin⟩ | ⟨front, hfront, hne, hjoin⟩
  · obtain ⟨text⟩ := p
    obtain rfl : text = "" := hempty
    rw [hjoin, hq]
    decide
  · -- both texts begin with the same character
    have hhead : (p.join q).text.toList.head? = p.text.toList.head? := by
      rw [hjoin]
      rcases hfront with hfront | hfront
      · have hne : front.toList ≠ [] := by
          rw [ne_eq, String.toList_eq_nil_iff, ← hfront]
          exact hne
        obtain ⟨c, cs, hcs⟩ := List.exists_cons_of_ne_nil hne
        simp [hfront, hcs]
      · rw [hfront]
        cases front.toList <;> simp
    rw [Bool.eq_iff_iff, isAbsolute_iff, isAbsolute_iff, hhead]

/-! ## Names -/

/-- **A text that is the name of an entry** of a directory. -/
structure IsName (s : String) : Prop where
  /-- It is not empty. -/
  ne_empty : s ≠ ""
  /-- It is not the directory itself. -/
  ne_point : s ≠ "."
  /-- It does not lead up. -/
  ne_up : s ≠ ".."
  /-- No separator stands in it. -/
  noSeparator : '/' ∉ s.toList

instance (s : String) : Decidable (IsName s) :=
  decidable_of_iff (s ≠ "" ∧ s ≠ "." ∧ s ≠ ".." ∧ '/' ∉ s.toList)
    ⟨fun h => ⟨h.1, h.2.1, h.2.2.1, h.2.2.2⟩, fun h => ⟨h.1, h.2, h.3, h.4⟩⟩

/-- No separator cuts a name. -/
theorem IsName.pieces (h : IsName name) :
    (Text.piecesAt '/' [] name.toList).map String.ofList = [name] := by
  have hpieces := Text.piecesAt_intercalate (List.cons_ne_nil name [])
    (List.forall_mem_singleton.mpr h.noSeparator)
  rw [String.intercalate_singleton] at hpieces
  rw [hpieces]
  simp

/-- A name is one segment. -/
theorem IsName.segments (h : IsName name) : (⟨name⟩ : Path).segments = [name] := by
  unfold Path.segments
  dsimp only
  rw [h.pieces]
  simp [h.ne_empty]

theorem IsName.isAbsolute (h : IsName name) : (⟨name⟩ : Path).isAbsolute = false := by
  rw [← Bool.not_eq_true, isAbsolute_iff]
  exact fun hhead => h.noSeparator (List.mem_of_mem_head? hhead)

/-- **The path of a child** is followed one name further. -/
theorem segments_child (h : IsName name) : (p.child name).segments = p.segments ++ [name] := by
  rw [child, segments_join h.isAbsolute, h.segments]

theorem isAbsolute_child (h : IsName name) : (p.child name).isAbsolute = p.isAbsolute :=
  isAbsolute_join h.isAbsolute

/-- A directory with a separator behind it is followed as before. -/
theorem segments_join_empty (p : Path) : (p.join ⟨""⟩).segments = p.segments := by
  rw [segments_join (by decide), show (⟨""⟩ : Path).segments = [] by decide, List.append_nil]

theorem isAbsolute_join_empty (p : Path) : (p.join ⟨""⟩).isAbsolute = p.isAbsolute :=
  isAbsolute_join (by decide)

/-- A separator is put behind the text of a directory, if anything. -/
theorem exists_text_join_empty (p : Path) : ∃ rest, (p.join ⟨""⟩).text = p.text ++ rest := by
  rcases join_cases (q := ⟨""⟩) p (by decide) with ⟨hempty, hjoin⟩ | ⟨front, hfront, -, hjoin⟩
  · exact ⟨"", by rw [hjoin, hempty, String.append_empty]⟩
  · rw [hjoin]
    rcases hfront with hfront | hfront <;> rw [hfront]
    · exact ⟨"/", by simp⟩
    · exact ⟨"", rfl⟩

/-- Children with one path have one name. -/
theorem child_inj (h : IsName name) (h' : IsName other) (heq : p.child name = p.child other) :
    name = other := by
  have hsegments := congrArg Path.segments heq
  rw [segments_child h, segments_child h'] at hsegments
  exact List.singleton_inj.mp (List.append_cancel_left hsegments)

/-- **The file name of a child** is its name. -/
theorem fileName?_child (h : IsName name) : (p.child name).fileName? = some name := by
  have hbody : ∃ before, (p.child name).parts.body = before ++ [name] := by
    rcases join_cases p h.isAbsolute with ⟨-, hjoin⟩ | ⟨front, -, -, hjoin⟩
    · -- the name alone is neither empty nor a point
      refine ⟨[], ?_⟩
      rw [child, hjoin, List.nil_append, ← h.pieces]
      unfold parts
      dsimp only
      split
      · rename_i heq
        have hfirst := h.pieces
        rw [heq, List.map_cons] at hfirst
        exact absurd (List.cons.inj hfirst).1.symm h.ne_empty
      · rename_i heq
        have hfirst := h.pieces
        rw [heq, List.map_cons] at hfirst
        exact absurd (List.cons.inj hfirst).1.symm h.ne_point
      · rfl
    · rw [child, hjoin, ← h.pieces]
      exact exists_body_append_separator front name
  obtain ⟨before, hbody⟩ := hbody
  have hfiller : isFiller name = false := by simp [isFiller, h.ne_empty, h.ne_point]
  unfold fileName? components
  simp [hbody, hfiller, componentOf, h.ne_up]

/-- The file name of a path is a name. -/
theorem isName_of_fileName? (h : p.fileName? = some name) : IsName name := by
  obtain ⟨before, fillers, hname⟩ := exists_hasName h
  have hmem : name ∈ p.parts.body := by
    rw [hname.body]
    simp
  exact ⟨hname.ne.1, hname.ne.2.1, hname.ne.2.2, mem_body_parts hmem⟩

/-- A segment is not empty, and no separator stands in it. -/
theorem mem_segments {s : String} (h : s ∈ p.segments) : s ≠ "" ∧ '/' ∉ s.toList := by
  obtain ⟨hmem, hne⟩ := List.mem_filter.mp h
  obtain ⟨piece, hpiece, rfl⟩ := List.mem_map.mp hmem
  refine ⟨by simpa using hne, ?_⟩
  rw [String.toList_ofList]
  exact Text.notMem_of_mem_piecesAt List.not_mem_nil _ piece hpiece

end Path

end RtlFlow
