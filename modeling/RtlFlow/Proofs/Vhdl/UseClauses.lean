import RtlFlow.Proofs.Vhdl.Instantiations

/-! # Use clauses

A use clause is read when it has one name, `use library.unit;` or `use library.unit.name;`, and what
is found in front of it ends in front of it, because in a clause no word follows a word. A clause
with more names is passed: behind the first one a comma stands where the semicolon is looked for,
and the names that follow are behind no `use` of their own. So a clause adds its name to the units
that a text uses when it is the only one, and nothing otherwise (`uses_append`). -/

namespace RtlFlow.Vhdl

open RtlFlow.Text
open RtlFlow.Text.Unicode

variable {ts rest before behind : List Token} {r : UnitRef}

/-! ## The forms that are read -/

/-- **The tokens of a use clause with one name.** -/
inductive UseForm : UnitRef → List Token → Prop
  /-- `use library.unit;` -/
  | unit (l u : List Char) : UseForm ⟨some (String.ofList l), String.ofList u⟩
      [keyword "use", .word l, .sign '.', .word u, .sign ';']
  /-- `use library.unit.name;` -/
  | selected (l u x : List Char) : UseForm ⟨some (String.ofList l), String.ofList u⟩
      [keyword "use", .word l, .sign '.', .word u, .sign '.', .word x, .sign ';']

/-- A selection is there or it is not. -/
theorem Token.skipSelection_eq (ts : List Token) :
    Token.skipSelection ts = ts ∨ ∃ x, ts = .sign '.' :: .word x :: Token.skipSelection ts := by
  unfold skipSelection
  cases h : (Token.sign? '.' ts).bind Token.word? with
  | none => exact Or.inl rfl
  | some p =>
    obtain ⟨ts', hpoint, hword⟩ := Option.bind_eq_some_iff.mp h
    rw [Token.sign?_eq_some hpoint, Token.word?_eq_some hword]
    exact Or.inr ⟨p.1, rfl⟩

/-- **A use clause is read when it has one of the two forms.** -/
theorem Token.useClause?_eq_some_iff :
    Token.useClause? ts = some (r, rest) ↔ ∃ clause, UseForm r clause ∧ ts = clause ++ rest := by
  constructor
  · intro h
    obtain ⟨p, hlibrary, h⟩ := Option.bind_eq_some_iff.mp h
    obtain ⟨ts₁, hkeyword, hword⟩ := Option.bind_eq_some_iff.mp hlibrary
    obtain ⟨ts₂, hpoint, h⟩ := Option.bind_eq_some_iff.mp h
    obtain ⟨q, hunit, h⟩ := Option.bind_eq_some_iff.mp h
    obtain ⟨ts₃, hend, heq⟩ := Option.map_eq_some_iff.mp h
    obtain ⟨rfl, rfl⟩ := Prod.mk.inj heq
    -- what the steps took is the clause up to its selection, which is there or not
    have hstart : ts = keyword "use" :: .word p.1 :: .sign '.' :: .word q.1 :: q.2 := by
      rw [Token.keyword?_eq_some hkeyword, Token.word?_eq_some hword, Token.sign?_eq_some hpoint,
        Token.word?_eq_some hunit]
    have hsemicolon := Token.sign?_eq_some hend
    rcases Token.skipSelection_eq q.2 with hnone | ⟨x, hselection⟩
    · rw [hnone] at hsemicolon
      exact ⟨_, .unit p.1 q.1, by rw [hstart, hsemicolon]; rfl⟩
    · rw [hsemicolon] at hselection
      exact ⟨_, .selected p.1 q.1 x, by rw [hstart, hselection]; rfl⟩
  · rintro ⟨clause, hform, rfl⟩
    cases hform with
    | unit l u => simp [Token.useClause?, Token.skipSelection, Token.word?, Token.sign?]
    | selected l u x => simp [Token.useClause?, Token.skipSelection, Token.word?]

/-- **Behind its first token a clause has no word behind a word**, and none at its end. -/
theorem UseForm.sign_behind {clause front m : List Token} {t : Token} {w : List Char}
    (h : UseForm r clause) (hclause : clause = t :: front ++ .word w :: m) :
    ∃ c m', m = .sign c :: m' := by
  have hsuffix : .word w :: m <:+ clause.tail := ⟨front, by rw [hclause]; rfl⟩
  cases h with
  | unit l u =>
    have hword : w = l ∧ m = [.sign '.', .word u, .sign ';'] ∨ w = u ∧ m = [.sign ';'] := by
      simpa [List.suffix_cons_iff] using hsuffix
    rcases hword with ⟨-, rfl⟩ | ⟨-, rfl⟩
    · exact ⟨_, _, rfl⟩
    · exact ⟨_, _, rfl⟩
  | selected l u x =>
    have hword : w = l ∧ m = [.sign '.', .word u, .sign '.', .word x, .sign ';'] ∨
        w = u ∧ m = [.sign '.', .word x, .sign ';'] ∨ w = x ∧ m = [.sign ';'] := by
      simpa [List.suffix_cons_iff] using hsuffix
    rcases hword with ⟨-, rfl⟩ | ⟨-, rfl⟩ | ⟨-, rfl⟩
    · exact ⟨_, _, rfl⟩
    · exact ⟨_, _, rfl⟩
    · exact ⟨_, _, rfl⟩

/-! ## The search around a clause -/

/-- **What is read in front of a clause is read as if nothing followed.** -/
theorem Token.useClause?_append (t : Token) (before : List Token) (w : List Char)
    (rest : List Token) :
    Token.useClause? (t :: before ++ keyword "use" :: .word w :: rest) =
      (Token.useClause? (t :: before)).map
        (Prod.map id (· ++ keyword "use" :: .word w :: rest)) := by
  refine Option.ext fun ⟨r, left⟩ => ?_
  rw [Option.map_eq_some_iff, Token.useClause?_eq_some_iff]
  constructor
  · rintro ⟨clause, hform, heq⟩
    rcases List.append_eq_append_iff.mp heq with ⟨reached, hclause, hrest⟩ | ⟨mid, hmid, hleft⟩
    · cases reached with
      | nil =>
        have hread : Token.useClause? (t :: before) = some (r, []) :=
          Token.useClause?_eq_some_iff.mpr ⟨clause, hform, by simp [hclause]⟩
        exact ⟨(r, []), hread, by rw [hrest]; rfl⟩
      | cons u reached =>
        -- the clause would have the word `use` inside of it, with a word behind it
        exfalso
        obtain ⟨rfl, hbehind⟩ := List.cons.inj hrest
        obtain ⟨c, m, rfl⟩ := hform.sign_behind hclause
        exact Token.word_ne_sign w c (List.cons.inj hbehind).1
    · have hread : Token.useClause? (t :: before) = some (r, mid) :=
        Token.useClause?_eq_some_iff.mpr ⟨clause, hform, hmid⟩
      exact ⟨(r, mid), hread, by rw [hleft]; rfl⟩
  · rintro ⟨⟨r', mid⟩, hread, heq⟩
    obtain ⟨rfl, rfl⟩ := Prod.mk.inj heq
    obtain ⟨clause, hform, hclause⟩ := Token.useClause?_eq_some_iff.mp hread
    exact ⟨clause, hform, by rw [hclause, List.append_assoc]⟩

/-- **What is found in front of a clause and from it on** is found in both together. -/
theorem Finds.append_useClause {x y : List UnitRef} {w : List Char}
    (hx : Finds Token.useClause? before x)
    (hy : Finds Token.useClause? (keyword "use" :: .word w :: rest) y) :
    Finds Token.useClause? (before ++ keyword "use" :: .word w :: rest) (x ++ y) := by
  induction hx with
  | nil => exact hy
  | skip hmiss _ ih =>
    refine .skip ((Token.useClause?_append _ _ w rest).trans ?_) ih
    rw [hmiss, Option.map_none]
  | hit hhit _ ih =>
    refine .hit ((Token.useClause?_append _ _ w rest).trans ?_) ih
    rw [hhit]
    rfl

theorem exists_finds_useClause (ts : List Token) : ∃ found, Finds Token.useClause? ts found := by
  refine exists_finds (fun t ts a rest h => ?_) ts
  obtain ⟨clause, hform, heq⟩ := Token.useClause?_eq_some_iff.mp h
  have hlength := congrArg List.length heq
  cases hform <;> simp at hlength <;> omega

/-- **The tokens use a unit**: it is named by a use clause that is found in them. -/
def Uses (ts : List Token) (r : UnitRef) : Prop :=
  ∃ found, Finds Token.useClause? ts found ∧ r ∈ found

theorem uses_iff {found : List UnitRef} (h : Finds Token.useClause? ts found) :
    Uses ts r ↔ r ∈ found := by
  constructor
  · rintro ⟨found', h', hr⟩
    rwa [h.unique h']
  · exact fun hr => ⟨found, h, hr⟩

/-- The units that a text uses are those that its tokens use. -/
theorem mem_uses_iff {text : String} :
    r ∈ (HdlFacts.ofText text).uses ↔ Uses (tokens (scanned [] text.toList)) r := by
  rw [uses_iff (finds_useClauses _), ofText_eq, factsOf, UnitRef.mem_setOf]

/-! ## Clauses with any number of names -/

/-- **A name in a use clause**: `library.unit.all`. -/
structure UsedUnit where
  /-- The library. -/
  library : Identifier
  /-- The unit. -/
  unit : Identifier

namespace UsedUnit

/-- The tokens of the name. -/
def tokens (u : UsedUnit) : List Token :=
  [u.library.token, .sign '.', u.unit.token, .sign '.', keyword "all"]

/-- The unit that is used. -/
def reference (u : UsedUnit) : UnitRef := ⟨some u.library.name, u.unit.name⟩

end UsedUnit

/-- **The tokens of a use clause**: `use library.unit.all, library.unit.all, …;`. -/
def useTokens (first : UsedUnit) (others : List UsedUnit) : List Token :=
  keyword "use" :: (first.tokens ++ others.flatMap (fun u => .sign ',' :: u.tokens) ++ [.sign ';'])

variable {first : UsedUnit} {others : List UsedUnit}

/-- The keyword stands at the front only. -/
theorem keyword_use_notMem (names : List UsedUnit) :
    keyword "use" ∉
      first.tokens ++ names.flatMap (fun u => .sign ',' :: u.tokens) ++ [.sign ';'] := by
  have hident : ∀ i : Identifier, keyword "use" ≠ i.token := fun i => (i.token_ne (by decide)).symm
  simp [UsedUnit.tokens, hident]

/-- **A clause is found when it has one name**, and passed otherwise. -/
theorem finds_useTokens {found : List UnitRef} (h : Finds Token.useClause? behind found) :
    Finds Token.useClause? (useTokens first others ++ behind)
      ((if others = [] then [first.reference] else []) ++ found) := by
  -- behind the first name the reader wants a semicolon, and a second `use` is not there to be found
  cases others with
  | nil => exact .hit (Token.useClause?_written first.library first.unit behind) h
  | cons u others =>
    have hmiss : Token.useClause? (useTokens first (u :: others) ++ behind) = none := by
      simp [useTokens, UsedUnit.tokens, Token.useClause?, Token.skipSelection, Token.sign?]
    exact .skip hmiss (h.pass_of_keyword useClause?_of_ne (keyword_use_notMem (u :: others)))

/-- **What a clause adds to the units that are used**: its name when it has one, and nothing when
it has more. -/
theorem uses_append : Uses (before ++ (useTokens first others ++ behind)) r ↔
    Uses before r ∨ (others = [] ∧ r = first.reference) ∨ Uses behind r := by
  obtain ⟨x, hx⟩ := exists_finds_useClause before
  obtain ⟨y, hy⟩ := exists_finds_useClause behind
  have hclause : Finds Token.useClause? (useTokens first others ++ behind)
      ((if others = [] then [first.reference] else []) ++ y) := finds_useTokens hy
  have hall : Finds Token.useClause? (before ++ (useTokens first others ++ behind))
      (x ++ ((if others = [] then [first.reference] else []) ++ y)) := hx.append_useClause hclause
  rw [uses_iff hall, uses_iff hx, uses_iff hy, List.mem_append, List.mem_append]
  -- what the clause adds is in the middle
  by_cases hothers : others = [] <;> simp [hothers]

/-- **A text with nothing but a clause** uses the name of the clause, or nothing. -/
theorem uses_ofText_of_written {text : String}
    (h : Written [] (useTokens first others) text.toList) :
    (HdlFacts.ofText text).uses = if others = [] then [first.reference] else [] := by
  obtain ⟨after, htokens⟩ := h.tokens_eq []
  have hend : tokens (scanned after []) = [] := by rw [scanned, codeFrom, lowerFrom, tokens]
  have hfinds : Finds Token.useClause? (useTokens first others ++ [])
      ((if others = [] then [first.reference] else []) ++ []) := finds_useTokens .nil
  rw [hend] at htokens
  rw [← htokens, List.append_nil] at hfinds
  rw [ofText_eq, factsOf, (finds_useClauses _).unique hfinds]
  by_cases hothers : others = []
  · rw [if_pos hothers]
    rfl
  · rw [if_neg hothers]
    rfl

end RtlFlow.Vhdl

namespace RtlFlow.Catalog

open Vhdl

/-- **What a use clause does**, wherever it stands in a text: when it has one name, the unit is used
in addition to those that are used in front of the clause and behind it, and in every plan a file
with this text stands behind all files of the library and, for a library of its own, behind the
first file that provides the unit. A clause with more names adds none of them. -/
theorem used_unit_first (first : UsedUnit) (others : List UsedUnit) (text : String)
    (front cs back : List Char) (htext : text.toList = front ++ cs) (hcode : ¬ InComment front)
    (hapart : Apart front cs) (hwritten : Written back (useTokens first others) cs) :
    (∃ before after,
      tokens (scanned [] text.toList) =
        before ++ (useTokens first others ++ tokens (scanned after back)) ∧
      ∀ r, r ∈ (HdlFacts.ofText text).uses ↔ Uses before r ∨
        (others = [] ∧ r = first.reference) ∨ Uses (tokens (scanned after back)) r) ∧
      (others = [] → ∀ {c : Catalog} {t : FileTree} {facts : FactTable} {plan : BuildPlan},
        c.Registered → scanFiles t c.files = .ok facts → c.resolve t = .ok plan →
          ∀ f ∈ c.files, HasText t f text → ∀ g,
            EntityFile c facts f first.library.name first.unit.name g →
              plan.files.idxOf g < plan.files.idxOf f) := by
  obtain ⟨before, after, htokens⟩ := exists_tokens_part hcode hapart hwritten
  rw [← htext] at htokens
  have huses : ∀ r, r ∈ (HdlFacts.ofText text).uses ↔ Uses before r ∨
      (others = [] ∧ r = first.reference) ∨ Uses (tokens (scanned after back)) r := by
    intro r
    rw [mem_uses_iff, htokens, uses_append]
  refine ⟨⟨before, after, htokens, huses⟩, ?_⟩
  intro hothers c t facts plan hc hfacts hplan f hf hhas g hg
  have hused : first.reference ∈ (HdlFacts.ofText text).uses :=
    (huses _).mpr (Or.inr (Or.inl ⟨hothers, rfl⟩))
  have habout := about?_scanFiles hfacts (fun a ha b hb => hc.eq_of_same_path ha hb) hf hhas
  rw [resolve_eq hfacts] at hplan
  exact (hc.compileOrder hplan).behind_entityFile hf habout (Or.inl hused) hg

/-- A package of a library, as it is named in a use clause. -/
def utilPackage : UsedUnit where
  library := ⟨"util", by decide +kernel, by decide, by decide⟩
  unit := ⟨"pkg", by decide +kernel, by decide, by decide⟩

/-- The text of a file that uses it. -/
def userText : String := "-- a user\nUse Util.pkg . All;\nentity top is end;"

/-- The file of the user. -/
def userFile : SourceFile := ⟨⟨"/p/top.vhd"⟩, "work", .vhdl, true, .empty, [], []⟩

/-- The file of the package. -/
def packageFile : SourceFile := ⟨⟨"/p/pkg.vhd"⟩, "util", .vhdl, true, .empty, [], []⟩

/-- A catalog in which the user is registered before the package. -/
def user : Catalog := ⟨⟨"/p"⟩, [userFile, packageFile], [], .empty⟩

/-- Its files. -/
def userFiles : FileTree :=
  ⟨[(["p"], .directory), (["p", "top.vhd"], .file userText.toUTF8 false),
    (["p", "pkg.vhd"], .file "package pkg is end;".toUTF8 false)], []⟩

theorem scanFiles_user : scanFiles userFiles user.files =
    .ok [(⟨"/p/top.vhd"⟩, { uses := [⟨some "util", "pkg"⟩], entities := ["top"] }),
      (⟨"/p/pkg.vhd"⟩, { packages := ["pkg"] })] := by
  have huser : HdlFacts.ofText (Text.decode userText.toUTF8.toList) =
      { uses := [⟨some "util", "pkg"⟩], entities := ["top"] } := by
    decide +kernel
  have hpackage : HdlFacts.ofText (Text.decode "package pkg is end;".toUTF8.toList) =
      { packages := ["pkg"] } := by
    decide +kernel
  have hscan : scanFiles userFiles user.files =
      .ok [(⟨"/p/top.vhd"⟩, HdlFacts.ofText (Text.decode userText.toUTF8.toList)),
        (⟨"/p/pkg.vhd"⟩, HdlFacts.ofText (Text.decode "package pkg is end;".toUTF8.toList))] := rfl
  rw [hscan, huser, hpackage]

/-- The user is compiled after the package. -/
theorem used_unit_first_user :
    ∃ plan, user.resolve userFiles = .ok plan ∧
      plan.files.idxOf packageFile < plan.files.idxOf userFile := by
  have hwritten : Written "\nentity top is end;".toList (useTokens utilPackage [])
      "Use Util.pkg . All;\nentity top is end;".toList :=
    .spaced "Use" (c := ' ') (by decide +kernel) (by decide) <|
    .signed "Util" (c := '.') (by decide +kernel) (by decide +kernel) <|
    .spaced "pkg" (c := ' ') (by decide +kernel) (by decide) <|
    .sign (by decide +kernel) <| .blank (by decide) <|
    .signed "All" (c := ';') (by decide +kernel) (by decide +kernel) .nil
  obtain ⟨-, hfirst⟩ := used_unit_first utilPackage [] userText ("-- a user".toList ++ ['\n'])
    _ _ rfl (not_inComment_lineFeed _)
    (Or.inr (Or.inl ⟨'\n', by simp, Or.inl (by decide), by decide⟩)) hwritten
  have hregistered : user.Registered :=
    .register (.register (.empty ⟨"/p"⟩) ⟨"top.vhd"⟩ "work" {} rfl) ⟨"pkg.vhd"⟩ "util" {} rfl
  have hplan : user.resolve userFiles =
      .ok ⟨[⟨"util", [packageFile]⟩, ⟨"work", [userFile]⟩]⟩ := by
    rw [resolve_eq scanFiles_user]
    rfl
  refine ⟨_, hplan, hfirst rfl hregistered scanFiles_user hplan userFile
    (List.mem_cons_self ..) ⟨rfl, userText.toUTF8, rfl, by decide +kernel⟩ packageFile ?_⟩
  exact .other (List.mem_cons_of_mem _ (List.mem_cons_self ..)) rfl (by decide) (by decide)
    (by decide)

/-- A package of another library. -/
def otherPackage : UsedUnit where
  library := ⟨"b", by decide +kernel, by decide, by decide⟩
  unit := ⟨"q", by decide +kernel, by decide, by decide⟩

/-- **Not every name in a use clause is used**: of a clause with two names none is. -/
theorem not_forall_names_used :
    ¬ ∀ (first : UsedUnit) (others : List UsedUnit) (text : String),
      Written [] (useTokens first others) text.toList →
        ∀ u ∈ first :: others, u.reference ∈ (HdlFacts.ofText text).uses := by
  intro h
  have hwritten : Written [] (useTokens utilPackage [otherPackage])
      "use util.pkg.all, b.q.all;".toList :=
    .spaced "use" (c := ' ') (by decide +kernel) (by decide) <|
    .signed "util" (c := '.') (by decide +kernel) (by decide +kernel) <|
    .signed "pkg" (c := '.') (by decide +kernel) (by decide +kernel) <|
    .signed "all" (c := ',') (by decide +kernel) (by decide +kernel) <|
    .blank (by decide) <|
    .signed "b" (c := '.') (by decide +kernel) (by decide +kernel) <|
    .signed "q" (c := '.') (by decide +kernel) (by decide +kernel) <|
    .signed "all" (c := ';') (by decide +kernel) (by decide +kernel) .nil
  have hused := h _ _ "use util.pkg.all, b.q.all;" hwritten utilPackage (List.mem_cons_self ..)
  rw [uses_ofText_of_written hwritten, if_neg (by simp)] at hused
  cases hused

end RtlFlow.Catalog
