import RtlFlow.Proofs.Vhdl.Tokens

/-! # Clauses as tokens

The readers of clauses see nothing of a text but its tokens: each of them does on characters what a
reader of tokens does on the tokens (`Agrees`). A keyword needs a blank behind it only where a word
has to follow, and two words are kept apart by one anyway. -/

namespace RtlFlow.Vhdl

open RtlFlow.Text
open RtlFlow.Text.Unicode

/-! ## Readers of tokens -/

namespace Token

/-- The word at the front. -/
def word? : List Token → Option (List Char × List Token)
  | .word w :: ts => some (w, ts)
  | _ => none

/-- What stands behind a sign at the front. -/
def sign? (c : Char) : List Token → Option (List Token)
  | .sign d :: ts => if d = c then some ts else none
  | _ => none

/-- What stands behind a keyword at the front. -/
def keyword? (k : String) : List Token → Option (List Token)
  | .word w :: ts => if w = k.toList then some ts else none
  | _ => none

/-- The names behind a name: each follows a comma. -/
def moreNames : List Token → List String × List Token
  | .sign c :: .word w :: ts =>
    if c = ',' then (String.ofList w :: (moreNames ts).1, (moreNames ts).2)
    else ([], .sign c :: .word w :: ts)
  | ts => ([], ts)

/-- A library clause. -/
def libraryClause? (ts : List Token) : Option (List String × List Token) :=
  ((keyword? "library" ts).bind word?).bind fun p =>
    (sign? ';' (moreNames p.2).2).map fun ts => (String.ofList p.1 :: (moreNames p.2).1, ts)

/-- What stands behind a point and a word, where they stand. -/
def skipSelection (ts : List Token) : List Token :=
  ((sign? '.' ts).bind word?).elim ts Prod.snd

/-- A use clause. -/
def useClause? (ts : List Token) : Option (UnitRef × List Token) :=
  ((keyword? "use" ts).bind word?).bind fun p => (sign? '.' p.2).bind fun ts =>
    (word? ts).bind fun q => (sign? ';' (skipSelection q.2)).map fun ts =>
      (UnitRef.mk (some (String.ofList p.1)) (String.ofList q.1), ts)

/-- A declaration that starts with a keyword. -/
def declaration? (keyword : String) (ts : List Token) : Option (String × List Token) :=
  ((keyword? keyword ts).bind word?).bind fun p =>
    (keyword? "is" p.2).map fun ts => (String.ofList p.1, ts)

/-- What stands behind `generic map` or `port map`. -/
def map? (ts : List Token) : Option (List Token) :=
  ((keyword? "generic" ts).orElse fun _ => keyword? "port" ts).bind (keyword? "map")

/-- What stands behind a map with an architecture name in parentheses in front of it. -/
def architectureMap? (ts : List Token) : Option (List Token) :=
  (sign? '(' ts).bind fun ts => (word? ts).bind fun p => (sign? ')' p.2).bind map?

/-- What stands behind a map, with or without an architecture name in front of it. -/
def mapAhead? (ts : List Token) : Option (List Token) :=
  (architectureMap? ts).orElse fun _ => map? ts

/-- The part of a word before `generic` or `port`. -/
def glued? (w : List Char) : Option (List Char) :=
  ["generic", "port"].findSome? fun k =>
    let tail := k.toList
    if tail.length < w.length ∧ tail.isSuffixOf w then some (w.take (w.length - tail.length))
    else none

/-- The name of an instantiated unit. -/
def instantiatedUnit? (ts : List Token) : Option (String × List Token) :=
  (word? ts).bind fun p =>
    ((mapAhead? p.2).map fun ts => (String.ofList p.1, ts)).orElse fun _ =>
      (glued? p.1).bind fun name => (keyword? "map" p.2).map fun ts => (String.ofList name, ts)

/-- A reference to an instantiated unit. -/
def instantiated? (ts : List Token) : Option (UnitRef × List Token) :=
  ((word? ts).bind fun p => (sign? '.' p.2).bind fun ts =>
    (instantiatedUnit? ts).map fun q =>
      (UnitRef.mk (some (String.ofList p.1)) q.1, q.2)).orElse fun _ =>
    (instantiatedUnit? ts).map fun q => (UnitRef.mk none q.1, q.2)

/-- A reference to an instantiated unit, unless a reserved word stands in its place. -/
def unreserved? (r : UnitRef) : Option UnitRef :=
  if r.library.isNone && reservedUnits.contains r.unit then none else some r

/-- An instantiation. -/
def instantiation? (ts : List Token) : Option (Option UnitRef × List Token) :=
  (word? ts).bind fun p => (sign? ':' p.2).bind fun ts =>
    (((keyword? "entity" ts).bind instantiated?).map fun q => (some q.1, q.2)).orElse fun _ =>
      (instantiated? ts).map fun q => (unreserved? q.1, q.2)

end Token

/-! ## Agreement -/

variable {α β γ δ γ' δ' : Type} {cs rest : List Char}

/-- **A reader of characters agrees with a reader of tokens**: they answer the same, where `image`
takes the tokens of what is left behind, and that is shorter than the text. -/
structure Agrees (left : γ → List Char) (image : γ → δ) (cs : List Char) (x : Option γ)
    (y : Option δ) : Prop where
  /-- The answers. -/
  eq : x.map image = y
  /-- What is left is shorter. -/
  shorter : ∀ p, x = some p → (left p).length < cs.length

/-- Agreement of readers with an answer. -/
abbrev Reads (cs : List Char) (x : Option (α × List Char)) (y : Option (α × List Token)) : Prop :=
  Agrees Prod.snd (Prod.map id tokens) cs x y

/-- Agreement of readers that answer only what is left. -/
abbrev Skips (cs : List Char) (x : Option (List Char)) (y : Option (List Token)) : Prop :=
  Agrees id tokens cs x y

namespace Agrees

variable {left : γ → List Char} {image : γ → δ} {x : Option γ} {y : Option δ}

/-- **Readers one after the other.** -/
theorem bind {left' : γ' → List Char} {image' : γ' → δ'} {f : γ → Option γ'} {g : δ → Option δ'}
    (h : Agrees left image cs x y)
    (hf : ∀ p, x = some p → Agrees left' image' (left p) (f p) (g (image p))) :
    Agrees left' image' cs (x.bind f) (y.bind g) := by
  obtain rfl := h.eq
  cases x with
  | none => exact ⟨rfl, fun p hp => by cases hp⟩
  | some p =>
    have hp := hf p rfl
    exact ⟨hp.eq, fun q hq => (hp.shorter q hq).trans (h.shorter p rfl)⟩

/-- The second reader where the first one finds nothing. -/
theorem orElse {x' : Option γ} {y' : Option δ} (h : Agrees left image cs x y)
    (h' : Agrees left image cs x' y') :
    Agrees left image cs (x.orElse fun _ => x') (y.orElse fun _ => y') := by
  obtain rfl := h.eq
  cases x with
  | none => exact h'
  | some p => exact h

theorem none : Agrees left image cs Option.none Option.none := ⟨rfl, fun p hp => by cases hp⟩

/-- What is shorter than a text is shorter than a longer one. -/
theorem mono (h : Agrees left image rest x y) (hle : rest.length ≤ cs.length) :
    Agrees left image cs x y :=
  ⟨h.eq, fun p hp => (h.shorter p hp).trans_le hle⟩

/-- An answer besides what is left. -/
theorem answer {x : Option (List Char)} {y : Option (List Token)} (h : Skips cs x y) (a : α) :
    Reads cs (x.map fun rest => (a, rest)) (y.map fun ts => (a, ts)) := by
  obtain rfl := h.eq
  cases x with
  | none => exact .none
  | some rest => exact ⟨rfl, fun q hq => Option.some.inj hq ▸ h.shorter rest rfl⟩

/-- Another answer, told from the first one. -/
theorem map {x : Option (α × List Char)} {y : Option (α × List Token)} (h : Reads cs x y)
    (f : α → β) : Reads cs (x.map fun p => (f p.1, p.2)) (y.map fun p => (f p.1, p.2)) := by
  obtain rfl := h.eq
  cases x with
  | none => exact .none
  | some p => exact ⟨rfl, fun q hq => Option.some.inj hq ▸ h.shorter p rfl⟩

end Agrees

/-! ## Words and signs -/

/-- **What stands at the front of a text**: a word, a sign or nothing. -/
inductive Front (cs : List Char) : Prop where
  /-- A word. -/
  | word {w rest : List Char} (hne : w ≠ []) (hleads : Leads w rest (skipBlanks cs))
      (htokens : tokens cs = .word w :: tokens rest) (hshorter : rest.length < cs.length)
  /-- A sign. -/
  | sign {c : Char} {rest : List Char} (hleads : Leads [] (c :: rest) (skipBlanks cs))
      (htokens : tokens cs = .sign c :: tokens rest) (hshorter : rest.length < cs.length)
  /-- Nothing. -/
  | nil (hskip : skipBlanks cs = []) (htokens : tokens cs = [])

theorem front (cs : List Char) : Front cs := by
  have hlength : (skipBlanks cs).length ≤ cs.length := List.length_dropWhile_le ..
  obtain ⟨w, rest, hleads⟩ := exists_leads (skipBlanks cs)
  have hsum : (skipBlanks cs).length = w.length + rest.length := by
    conv_lhs => rw [hleads.eq]
    exact List.length_append
  by_cases hw : w = []
  · -- behind the blanks stands a sign, or the text ends
    subst hw
    have hrest : skipBlanks cs = rest := hleads.eq
    cases rest with
    | nil => exact .nil hrest (by rw [← tokens_skipBlanks, hrest, tokens])
    | cons c rest =>
      have hblank : isBlank c = false := by
        have hnot := List.head?_dropWhile_not isBlank cs
        rw [show cs.dropWhile isBlank = c :: rest from hrest] at hnot
        simpa using hnot
      refine .sign hleads ?_ ?_
      · rw [← tokens_skipBlanks, hrest, tokens_sign (hleads.ends c rfl) hblank]
      · rw [List.length_cons] at hsum
        omega
  · refine .word hw hleads ?_ ?_
    · rw [← tokens_skipBlanks, hleads.tokens_eq hw]
    · have := List.length_pos_iff.mpr hw
      omega

theorem leads_nil_of_skipBlanks (h : skipBlanks cs = []) : Leads [] [] (skipBlanks cs) :=
  ⟨h, by simp, by simp⟩

theorem reads_word (cs : List Char) :
    Reads cs (takeWord? (skipBlanks cs)) (Token.word? (tokens cs)) := by
  cases front cs with
  | word hne hleads htokens hshorter =>
    rw [hleads.takeWord?_eq, if_neg hne, htokens]
    exact ⟨rfl, fun p hp => Option.some.inj hp ▸ hshorter⟩
  | sign hleads htokens _ =>
    rw [hleads.takeWord?_eq, if_pos rfl, htokens]
    exact .none
  | nil hskip htokens =>
    rw [(leads_nil_of_skipBlanks hskip).takeWord?_eq, if_pos rfl, htokens]
    exact .none

theorem skips_sign {c : Char} (hc : isWordChar c = false) (cs : List Char) :
    Skips cs (takeSign? c (skipBlanks cs)) (Token.sign? c (tokens cs)) := by
  cases front cs with
  | @word w rest hne hleads htokens _ =>
    obtain ⟨d, w, rfl⟩ := List.exists_cons_of_ne_nil hne
    have hd : d ≠ c := fun heq => by simp [← heq, hleads.word d (List.mem_cons_self ..)] at hc
    rw [hleads.eq, List.cons_append, takeSign?, if_neg hd, htokens]
    exact .none
  | @sign d rest hleads htokens hshorter =>
    rw [hleads.eq, List.nil_append, takeSign?, htokens, Token.sign?]
    split
    · exact ⟨rfl, fun p hp => Option.some.inj hp ▸ hshorter⟩
    · exact .none
  | nil hskip htokens =>
    rw [hskip, htokens]
    exact .none

theorem skips_lastKeyword {k : String} (hk : ∀ c ∈ k.toList, isWordChar c = true)
    (hne : k.toList ≠ []) (cs : List Char) :
    Skips cs (takeLastKeyword? k (skipBlanks cs)) (Token.keyword? k (tokens cs)) := by
  cases front cs with
  | word _ hleads htokens hshorter =>
    rw [hleads.takeLastKeyword?_eq hk, htokens, Token.keyword?]
    split
    · exact ⟨rfl, fun p hp => Option.some.inj hp ▸ hshorter⟩
    · exact .none
  | sign hleads htokens _ =>
    rw [hleads.takeLastKeyword?_eq hk, if_neg (Ne.symm hne), htokens]
    exact .none
  | nil hskip htokens =>
    rw [(leads_nil_of_skipBlanks hskip).takeLastKeyword?_eq hk, if_neg (Ne.symm hne), htokens]
    exact .none

/-! ## Keywords in front of words -/

/-- **A reader of tokens that starts with a word.** -/
def NeedsWord (g : List Token → Option δ) : Prop :=
  g [] = none ∧ ∀ c ts, g (.sign c :: ts) = none

variable {left : γ → List Char} {image : γ → δ} {r : List Char → Option γ}
  {g : List Token → Option δ}

/-- **A blank is needed in front of a word** when the text does not go on with one. -/
theorem Agrees.skipBlanks1 (hr : ∀ cs, Agrees left image cs (r (skipBlanks cs)) (g (tokens cs)))
    (hg : NeedsWord g) (hcs : ∀ c ∈ cs.head?, isWordChar c = false) :
    Agrees left image cs ((skipBlanks1? cs).bind r) (g (tokens cs)) := by
  cases cs with
  | nil =>
    rw [tokens, hg.1]
    exact .none
  | cons c cs =>
    rw [skipBlanks1?]
    by_cases hblank : isBlank c = true
    · rw [if_pos hblank, tokens_blank hblank]
      exact (hr cs).mono (Nat.le_succ _)
    · rw [if_neg hblank, tokens_sign (hcs c rfl) (by simpa using hblank), hg.2]
      exact .none

/-- **A keyword in front of a word.** -/
theorem Agrees.keyword {k : String} (hk : ∀ c ∈ k.toList, isWordChar c = true)
    (hne : k.toList ≠ []) (hr : ∀ cs, Agrees left image cs (r (skipBlanks cs)) (g (tokens cs)))
    (hg : NeedsWord g) (cs : List Char) :
    Agrees left image cs ((takeKeyword? k (skipBlanks cs)).bind r)
      ((Token.keyword? k (tokens cs)).bind g) := by
  cases front cs with
  | word _ hleads htokens hshorter =>
    rw [hleads.takeKeyword?_eq hk, htokens, Token.keyword?]
    split
    · exact (Agrees.skipBlanks1 hr hg hleads.ends).mono hshorter.le
    · exact .none
  | sign hleads htokens _ =>
    rw [hleads.takeKeyword?_eq hk, if_neg (Ne.symm hne), htokens]
    exact .none
  | nil hskip htokens =>
    rw [(leads_nil_of_skipBlanks hskip).takeKeyword?_eq hk, if_neg (Ne.symm hne), htokens]
    exact .none

theorem needsWord_word : NeedsWord Token.word? := ⟨rfl, fun _ _ => rfl⟩

theorem needsWord_keyword (k : String) : NeedsWord (Token.keyword? k) := ⟨rfl, fun _ _ => rfl⟩

/-- What is left behind a word does not go on with it. -/
theorem ends_of_takeWord? {w rest : List Char} (h : takeWord? cs = some (w, rest)) :
    ∀ c ∈ rest.head?, isWordChar c = false := by
  obtain ⟨w', rest', hleads⟩ := exists_leads cs
  rw [hleads.takeWord?_eq] at h
  split at h
  · cases h
  · cases h
    exact hleads.ends

/-! ## Clauses -/

/-- The keywords of clauses. -/
def clauseKeywords : List String :=
  ["library", "use", "package", "entity", "is", "generic", "port", "map"]

/-- A keyword is a word. -/
theorem isWordChar_clauseKeywords :
    ∀ k ∈ clauseKeywords, (∀ c ∈ k.toList, isWordChar c = true) ∧ k.toList ≠ [] := by
  have hall : ∀ k ∈ clauseKeywords, k.toList.all isWordChar = true ∧ k.toList ≠ [] := by
    decide +kernel
  exact fun k hk => ⟨List.all_eq_true.mp (hall k hk).1, (hall k hk).2⟩

section Clauses

variable {k : String} {ts : List Token}

/-- A keyword with a word behind it. -/
theorem reads_keyword_word (hk : k ∈ clauseKeywords) (cs : List Char) :
    Reads cs ((takeKeyword? k (skipBlanks cs)).bind takeWord?)
      ((Token.keyword? k (tokens cs)).bind Token.word?) :=
  .keyword (isWordChar_clauseKeywords k hk).1 (isWordChar_clauseKeywords k hk).2 reads_word
    needsWord_word cs

/-- A word that is the last keyword, behind another word. -/
theorem skips_blanks1_lastKeyword (hk : k ∈ clauseKeywords)
    (hcs : ∀ c ∈ cs.head?, isWordChar c = false) :
    Skips cs ((skipBlanks1? cs).bind (takeLastKeyword? k)) (Token.keyword? k (tokens cs)) :=
  .skipBlanks1
    (skips_lastKeyword (isWordChar_clauseKeywords k hk).1 (isWordChar_clauseKeywords k hk).2)
    (needsWord_keyword k) hcs

/-- **A declaration**, read from the tokens. -/
theorem reads_declaration (hk : k ∈ clauseKeywords) (cs : List Char) :
    Reads cs (declaration? k (skipBlanks cs)) (Token.declaration? k (tokens cs)) := by
  have hcs : declaration? k (skipBlanks cs) =
      ((takeKeyword? k (skipBlanks cs)).bind takeWord?).bind fun p =>
        ((skipBlanks1? p.2).bind (takeLastKeyword? "is")).map fun rest =>
          (String.ofList p.1, rest) := by
    simp only [declaration?, Option.bind_eq_bind, Option.map_eq_bind, Option.bind_assoc]
    rfl
  rw [hcs]
  refine (reads_keyword_word hk cs).bind fun p hp => ?_
  obtain ⟨rest, -, hword⟩ := Option.bind_eq_some_iff.mp hp
  exact (skips_blanks1_lastKeyword (by decide) (ends_of_takeWord? hword)).answer _

/-- What goes on behind one of two readers goes on behind each, when not both find something. -/
theorem bind_orElse {x y : Option α} (f : α → Option β) (h : x = none ∨ y = none) :
    (x.orElse fun _ => y).bind f = (x.bind f).orElse fun _ => y.bind f := by
  rcases h with rfl | rfl
  · rfl
  · cases x with
    | none => rfl
    | some a =>
      change f a = (f a).orElse fun _ => none
      cases f a <;> rfl

/-- **A map**, read from the tokens. -/
theorem skips_map (cs : List Char) :
    Skips cs (takeMap? (skipBlanks cs)) (Token.map? (tokens cs)) := by
  have hgeneric := isWordChar_clauseKeywords "generic" (by decide)
  have hport := isWordChar_clauseKeywords "port" (by decide)
  have hmap := isWordChar_clauseKeywords "map" (by decide)
  have hne : "generic".toList ≠ "port".toList := by decide
  -- a word is not both keywords
  have hcs : takeKeyword? "generic" (skipBlanks cs) = none ∨
      takeKeyword? "port" (skipBlanks cs) = none := by
    obtain ⟨w, rest, hleads⟩ := exists_leads (skipBlanks cs)
    rw [hleads.takeKeyword?_eq hgeneric.1, hleads.takeKeyword?_eq hport.1]
    by_cases hw : w = "generic".toList
    · exact Or.inr (if_neg (hw ▸ hne))
    · exact Or.inl (if_neg hw)
  have hts : Token.keyword? "generic" (tokens cs) = none ∨
      Token.keyword? "port" (tokens cs) = none := by
    cases tokens cs with
    | nil => exact Or.inl rfl
    | cons t ts =>
      cases t with
      | sign c => exact Or.inl rfl
      | word w =>
        by_cases hw : w = "generic".toList
        · exact Or.inr (if_neg (hw ▸ hne))
        · exact Or.inl (if_neg hw)
  have hlast := skips_lastKeyword hmap.1 hmap.2
  have h := (Agrees.keyword hgeneric.1 hgeneric.2 hlast (needsWord_keyword "map") cs).orElse
    (.keyword hport.1 hport.2 hlast (needsWord_keyword "map") cs)
  rw [← bind_orElse _ hcs, ← bind_orElse _ hts] at h
  exact h

/-- The architecture name in parentheses, read from the tokens. -/
theorem skips_architecture (cs : List Char) :
    Skips cs ((takeArchitecture? (skipBlanks cs)).bind takeMap?)
      (Token.architectureMap? (tokens cs)) := by
  have hcs : (takeArchitecture? (skipBlanks cs)).bind takeMap? =
      (takeSign? '(' (skipBlanks cs)).bind fun rest =>
        (takeWord? (skipBlanks rest)).bind fun p =>
          (takeSign? ')' (skipBlanks p.2)).bind fun rest => takeMap? (skipBlanks rest) := by
    simp only [takeArchitecture?, Option.bind_eq_bind, Option.bind_assoc]
    rfl
  rw [hcs]
  exact (skips_sign (by decide +kernel) cs).bind fun rest _ => (reads_word rest).bind fun p _ =>
    (skips_sign (by decide +kernel) p.2).bind fun rest _ => skips_map rest

/-- **The name of an instantiated unit**, read from the tokens. -/
theorem reads_instantiatedUnit (cs : List Char) :
    Reads cs (instantiatedUnit? (skipBlanks cs)) (Token.instantiatedUnit? (tokens cs)) := by
  have hcs : instantiatedUnit? (skipBlanks cs) = (takeWord? (skipBlanks cs)).bind fun p =>
      ((((takeArchitecture? (skipBlanks p.2)).bind takeMap?).orElse fun _ =>
        takeMap? (skipBlanks p.2)).map fun rest => (String.ofList p.1, rest)).orElse fun _ =>
          (Token.glued? p.1).bind fun name =>
            ((skipBlanks1? p.2).bind (takeLastKeyword? "map")).map fun rest =>
              (String.ofList name, rest) := by
    refine congrArg _ (funext fun ⟨w, rest⟩ => ?_)
    dsimp only
    cases ((takeArchitecture? (skipBlanks rest)).bind takeMap?).orElse fun _ =>
      takeMap? (skipBlanks rest) with
    | some behind => rfl
    | none =>
      change ((skipBlanks1? rest).bind (takeLastKeyword? "map")).bind (fun behind =>
        (Token.glued? w).bind fun name => some (String.ofList name, behind)) = _
      cases (skipBlanks1? rest).bind (takeLastKeyword? "map") <;> cases Token.glued? w <;> rfl
  rw [hcs]
  refine (reads_word cs).bind fun p hp => ?_
  refine (((skips_architecture p.2).orElse (skips_map p.2)).answer _).orElse ?_
  have hmap := skips_blanks1_lastKeyword (k := "map") (by decide) (ends_of_takeWord? hp)
  change Agrees _ _ _ ((Token.glued? p.1).bind _) ((Token.glued? p.1).bind _)
  cases Token.glued? p.1 with
  | none => exact .none
  | some name => exact hmap.answer _

/-- **A reference to an instantiated unit**, read from the tokens. -/
theorem reads_instantiated (cs : List Char) :
    Reads cs (instantiated? (skipBlanks cs)) (Token.instantiated? (tokens cs)) := by
  have hcs : instantiated? (skipBlanks cs) = ((takeWord? (skipBlanks cs)).bind fun p =>
      (takeSign? '.' (skipBlanks p.2)).bind fun rest =>
        (instantiatedUnit? (skipBlanks rest)).map fun q =>
          (UnitRef.mk (some (String.ofList p.1)) q.1, q.2)).orElse fun _ =>
      (instantiatedUnit? (skipBlanks cs)).map fun q => (UnitRef.mk none q.1, q.2) := by
    simp only [instantiated?, Option.bind_eq_bind, Option.map_eq_bind]
    rfl
  rw [hcs]
  refine Agrees.orElse ?_ ((reads_instantiatedUnit cs).map (UnitRef.mk none))
  exact (reads_word cs).bind fun p _ => (skips_sign (by decide +kernel) p.2).bind fun rest _ =>
    (reads_instantiatedUnit rest).map (UnitRef.mk (some (String.ofList p.1)))

theorem needsWord_instantiated : NeedsWord Token.instantiated? := ⟨rfl, fun _ _ => rfl⟩

/-- **An instantiation**, read from the tokens. -/
theorem reads_instantiation (cs : List Char) :
    Reads cs (instantiation? (skipBlanks cs)) (Token.instantiation? (tokens cs)) := by
  have hcs : instantiation? (skipBlanks cs) = (takeWord? (skipBlanks cs)).bind fun p =>
      (takeSign? ':' (skipBlanks p.2)).bind fun rest =>
        (((takeKeyword? "entity" (skipBlanks rest)).bind instantiated?).map fun q =>
          (some q.1, q.2)).orElse fun _ =>
            (instantiated? (skipBlanks rest)).map fun q => (Token.unreserved? q.1, q.2) := by
    refine congrArg _ (funext fun ⟨w, rest⟩ => congrArg (Option.bind _) (funext fun rest => ?_))
    dsimp only
    cases (takeKeyword? "entity" (skipBlanks rest)).bind instantiated? with
    | some q => rfl
    | none => cases instantiated? (skipBlanks rest) <;> rfl
  have hentity := isWordChar_clauseKeywords "entity" (by decide)
  rw [hcs]
  refine (reads_word cs).bind fun p _ => (skips_sign (by decide +kernel) p.2).bind fun rest _ => ?_
  exact ((Agrees.keyword hentity.1 hentity.2 reads_instantiated needsWord_instantiated rest).map
    some).orElse ((reads_instantiated rest).map Token.unreserved?)

end Clauses

/-! ## Lists of names -/

theorem Token.moreNames_eq (ts : List Token) : Token.moreNames ts =
    ((Token.sign? ',' ts).bind Token.word?).elim ([], ts) fun p =>
      (String.ofList p.1 :: (Token.moreNames p.2).1, (Token.moreNames p.2).2) := by
  match ts with
  | [] => rfl
  | .word w :: ts => rfl
  | [.sign c] => by_cases hc : c = ',' <;> simp [hc, Token.moreNames, Token.sign?, Token.word?]
  | .sign c :: .sign d :: ts =>
    by_cases hc : c = ',' <;> simp [hc, Token.moreNames, Token.sign?, Token.word?]
  | .sign c :: .word w :: ts =>
    rw [Token.moreNames, Token.sign?]
    split <;> rfl

/-- **The names behind a name**, read from the tokens. -/
theorem reads_moreNames (fuel : Nat) (cs : List Char) (h : cs.length ≤ fuel) :
    Prod.map id tokens (takeMoreNames fuel cs) = Token.moreNames (tokens cs) ∧
      (takeMoreNames fuel cs).2.length ≤ cs.length := by
  induction fuel generalizing cs with
  | zero =>
    obtain rfl := List.length_eq_zero_iff.mp (Nat.le_zero.mp h)
    exact ⟨by simp [takeMoreNames, tokens, Token.moreNames], le_rfl⟩
  | succ fuel ih =>
    have hname : Reads cs ((takeSign? ',' (skipBlanks cs)).bind fun rest =>
        takeWord? (skipBlanks rest)) ((Token.sign? ',' (tokens cs)).bind Token.word?) :=
      (skips_sign (by decide +kernel) cs).bind fun rest _ => reads_word rest
    have hcs : takeMoreNames (fuel + 1) cs =
        ((takeSign? ',' (skipBlanks cs)).bind fun rest => takeWord? (skipBlanks rest)).elim ([], cs)
          fun p => (String.ofList p.1 :: (takeMoreNames fuel p.2).1, (takeMoreNames fuel p.2).2) := by
      rw [takeMoreNames]
      cases takeSign? ',' (skipBlanks cs) with
      | none => rfl
      | some rest => cases hword : takeWord? (skipBlanks rest) <;> simp [hword]
    rw [hcs, Token.moreNames_eq, ← hname.eq]
    cases hw : (takeSign? ',' (skipBlanks cs)).bind fun rest => takeWord? (skipBlanks rest) with
    | none => exact ⟨rfl, le_rfl⟩
    | some p =>
      have hshorter := hname.shorter p hw
      obtain ⟨heq, hle⟩ := ih p.2 (by omega)
      refine ⟨?_, hle.trans hshorter.le⟩
      change (String.ofList p.1 :: _, tokens _) =
        (String.ofList p.1 :: (Token.moreNames (tokens p.2)).1, (Token.moreNames (tokens p.2)).2)
      rw [← heq]
      rfl

/-- **A library clause**, read from the tokens. -/
theorem reads_libraryClause (cs : List Char) :
    Reads cs (libraryClause? (skipBlanks cs)) (Token.libraryClause? (tokens cs)) := by
  have hcs : libraryClause? (skipBlanks cs) =
      ((takeKeyword? "library" (skipBlanks cs)).bind takeWord?).bind fun p =>
        (takeSign? ';' (skipBlanks (takeMoreNames p.2.length p.2).2)).map fun rest =>
          (String.ofList p.1 :: (takeMoreNames p.2.length p.2).1, rest) := by
    simp only [libraryClause?, Option.bind_eq_bind, Option.map_eq_bind, Option.bind_assoc]
    rfl
  rw [hcs]
  refine (reads_keyword_word (by decide) cs).bind fun p _ => ?_
  obtain ⟨hnames, hle⟩ := reads_moreNames p.2.length p.2 le_rfl
  have hsign := (skips_sign (c := ';') (by decide +kernel)
    (takeMoreNames p.2.length p.2).2).mono hle
  have h := hsign.answer (String.ofList p.1 :: (takeMoreNames p.2.length p.2).1)
  dsimp only [Prod.map, id]
  rw [← hnames]
  exact h

/-- **A selection**, read from the tokens. -/
theorem tokens_skipSelection (cs : List Char) :
    tokens (skipSelection cs) = Token.skipSelection (tokens cs) ∧
      (skipSelection cs).length ≤ cs.length := by
  have h : Reads cs ((takeSign? '.' (skipBlanks cs)).bind fun rest => takeWord? (skipBlanks rest))
      ((Token.sign? '.' (tokens cs)).bind Token.word?) :=
    (skips_sign (by decide +kernel) cs).bind fun rest _ => reads_word rest
  rw [skipSelection, Token.skipSelection, ← h.eq]
  cases hw : (takeSign? '.' (skipBlanks cs)).bind fun rest => takeWord? (skipBlanks rest) with
  | none => exact ⟨rfl, le_rfl⟩
  | some p => exact ⟨rfl, (h.shorter p hw).le⟩

/-- **A use clause**, read from the tokens. -/
theorem reads_useClause (cs : List Char) :
    Reads cs (useClause? (skipBlanks cs)) (Token.useClause? (tokens cs)) := by
  have hcs : useClause? (skipBlanks cs) =
      ((takeKeyword? "use" (skipBlanks cs)).bind takeWord?).bind fun p =>
        (takeSign? '.' (skipBlanks p.2)).bind fun rest =>
          (takeWord? (skipBlanks rest)).bind fun q =>
            (takeSign? ';' (skipBlanks (skipSelection q.2))).map fun rest =>
              (UnitRef.mk (some (String.ofList p.1)) (String.ofList q.1), rest) := by
    simp only [useClause?, Option.bind_eq_bind, Option.map_eq_bind, Option.bind_assoc]
    rfl
  rw [hcs]
  refine (reads_keyword_word (by decide) cs).bind fun p _ =>
    (skips_sign (by decide +kernel) p.2).bind fun rest _ => (reads_word rest).bind fun q _ => ?_
  obtain ⟨hselection, hle⟩ := tokens_skipSelection q.2
  have hsign := (skips_sign (c := ';') (by decide +kernel) (skipSelection q.2)).mono hle
  have h := hsign.answer (UnitRef.mk (some (String.ofList p.1)) (String.ofList q.1))
  rw [hselection] at h
  exact h

end RtlFlow.Vhdl
