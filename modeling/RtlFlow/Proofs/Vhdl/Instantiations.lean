import RtlFlow.Proofs.Plan.CompileOrder
import RtlFlow.Proofs.Vhdl.Declarations
import RtlFlow.Proofs.Vhdl.Parts

/-! # Instantiated entities

A direct instantiation of an entity is seen in any text when a map follows, because what is found in
front of it ends with a map of its own and does not reach into it. The file in which it stands is
then compiled after that of the entity. Without a map it is not seen. -/

namespace RtlFlow.Vhdl

open RtlFlow.Text
open RtlFlow.Text.Unicode

variable {c : Char} {w : List Char} {k : String} {ts ts' rest : List Token}

/-! ## How far a hit reaches -/

/-- **A reader has read up to a map**: what it has read ends with `map` and has no colon. -/
def UpToMap (ts rest : List Token) : Prop :=
  ∃ mid, ts = mid ++ keyword "map" :: rest ∧ .sign ':' ∉ mid

theorem UpToMap.cons {t : Token} (h : UpToMap ts rest) (ht : t ≠ .sign ':') :
    UpToMap (t :: ts) rest := by
  obtain ⟨mid, rfl, hmid⟩ := h
  exact ⟨t :: mid, rfl, by simpa using ⟨ht.symm, hmid⟩⟩

theorem Token.word?_eq_some {p : List Char × List Token} (h : Token.word? ts = some p) :
    ts = .word p.1 :: p.2 := by
  cases ts with
  | nil => cases h
  | cons t ts =>
    cases t with
    | sign c => cases h
    | word w =>
      cases h
      rfl

theorem Token.sign?_eq_some (h : Token.sign? c ts = some rest) : ts = .sign c :: rest := by
  cases ts with
  | nil => cases h
  | cons t ts =>
    cases t with
    | word w => cases h
    | sign d =>
      obtain ⟨rfl, rfl⟩ : d = c ∧ ts = rest := by simpa [Token.sign?] using h
      rfl

theorem Token.keyword?_eq_some (h : Token.keyword? k ts = some rest) : ts = keyword k :: rest := by
  cases ts with
  | nil => cases h
  | cons t ts =>
    cases t with
    | sign c => cases h
    | word w =>
      obtain ⟨rfl, rfl⟩ : w = k.toList ∧ ts = rest := by simpa [Token.keyword?] using h
      rfl

theorem upToMap_keyword (h : Token.keyword? "map" ts = some rest) : UpToMap ts rest :=
  ⟨[], Token.keyword?_eq_some h, by simp⟩

theorem upToMap_map (h : Token.map? ts = some rest) : UpToMap ts rest := by
  obtain ⟨ts', hlead, hmap⟩ := Option.bind_eq_some_iff.mp h
  rcases (Option.orElse_eq_some _ _ _).mp hlead with hlead | ⟨-, hlead⟩
  all_goals
    rw [Token.keyword?_eq_some hlead]
    exact (upToMap_keyword hmap).cons (keyword_ne_sign _)

theorem upToMap_mapAhead (h : Token.mapAhead? ts = some rest) : UpToMap ts rest := by
  rcases (Option.orElse_eq_some _ _ _).mp h with h | ⟨-, h⟩
  · obtain ⟨ts₁, hopen, h⟩ := Option.bind_eq_some_iff.mp h
    obtain ⟨p, hname, h⟩ := Option.bind_eq_some_iff.mp h
    obtain ⟨ts₂, hclose, hmap⟩ := Option.bind_eq_some_iff.mp h
    rw [Token.sign?_eq_some hopen, Token.word?_eq_some hname, Token.sign?_eq_some hclose]
    exact .cons (.cons (.cons (upToMap_map hmap) (by decide)) (Token.word_ne_sign _ _)) (by decide)
  · exact upToMap_map h

theorem upToMap_instantiatedUnit {p : String × List Token}
    (h : Token.instantiatedUnit? ts = some p) : UpToMap ts p.2 := by
  obtain ⟨q, hword, h⟩ := Option.bind_eq_some_iff.mp h
  rw [Token.word?_eq_some hword]
  refine UpToMap.cons ?_ (Token.word_ne_sign _ _)
  rcases (Option.orElse_eq_some _ _ _).mp h with h | ⟨-, h⟩
  · obtain ⟨ts', hmap, rfl⟩ := Option.map_eq_some_iff.mp h
    exact upToMap_mapAhead hmap
  · obtain ⟨name, -, h⟩ := Option.bind_eq_some_iff.mp h
    obtain ⟨ts', hmap, rfl⟩ := Option.map_eq_some_iff.mp h
    exact upToMap_keyword hmap

theorem upToMap_instantiated {p : UnitRef × List Token} (h : Token.instantiated? ts = some p) :
    UpToMap ts p.2 := by
  rcases (Option.orElse_eq_some _ _ _).mp h with h | ⟨-, h⟩
  · obtain ⟨q, hword, h⟩ := Option.bind_eq_some_iff.mp h
    obtain ⟨ts', hpoint, h⟩ := Option.bind_eq_some_iff.mp h
    obtain ⟨u, hunit, rfl⟩ := Option.map_eq_some_iff.mp h
    rw [Token.word?_eq_some hword, Token.sign?_eq_some hpoint]
    exact .cons (.cons (upToMap_instantiatedUnit hunit) (by decide)) (Token.word_ne_sign _ _)
  · obtain ⟨u, hunit, rfl⟩ := Option.map_eq_some_iff.mp h
    exact upToMap_instantiatedUnit hunit

/-- **An instantiation is a label, a colon and what reaches up to a map.** -/
theorem upToMap_instantiation {p : Option UnitRef × List Token}
    (h : Token.instantiation? ts = some p) :
    ∃ w ts', ts = .word w :: .sign ':' :: ts' ∧ UpToMap ts' p.2 := by
  obtain ⟨q, hword, h⟩ := Option.bind_eq_some_iff.mp h
  obtain ⟨ts', hcolon, h⟩ := Option.bind_eq_some_iff.mp h
  refine ⟨q.1, ts', by rw [Token.word?_eq_some hword, Token.sign?_eq_some hcolon], ?_⟩
  rcases (Option.orElse_eq_some _ _ _).mp h with h | ⟨-, h⟩
  · obtain ⟨r, hentity, rfl⟩ := Option.map_eq_some_iff.mp h
    obtain ⟨behind, hkeyword, hunit⟩ := Option.bind_eq_some_iff.mp hentity
    rw [Token.keyword?_eq_some hkeyword]
    exact (upToMap_instantiated hunit).cons (keyword_ne_sign _)
  · obtain ⟨r, hunit, rfl⟩ := Option.map_eq_some_iff.mp h
    exact upToMap_instantiated hunit

/-- **What is found in front of a statement ends in front of it**: a label is not `map`, and the
colon behind it is in no hit but the one of the label itself. -/
theorem exists_behind_hit {front : List Token} {t : Token} {p : Option UnitRef × List Token}
    {label : Identifier}
    (h : Token.instantiation? (t :: front ++ label.token :: .sign ':' :: ts) = some p) :
    ∃ front', p.2 = front' ++ label.token :: .sign ':' :: ts := by
  obtain ⟨w, ts', hts', mid, rfl, hmid⟩ := upToMap_instantiation h
  -- the hit ends in the statement, or in front of it
  have heq : front ++ label.token :: .sign ':' :: ts =
      (.sign ':' :: mid ++ [keyword "map"]) ++ p.2 := by
    simpa using (List.cons.inj hts').2
  rcases List.append_eq_append_iff.mp heq with ⟨reached, hreached, hstatement⟩ | ⟨front', -, hp⟩
  · cases reached with
    | nil => exact ⟨[], hstatement.symm⟩
    | cons u reached =>
      exfalso
      obtain ⟨rfl, hbehind⟩ := List.cons.inj hstatement
      cases front with
      | nil => cases hreached
      | cons v front =>
        have hmap : mid ++ [keyword "map"] = front ++ label.token :: reached :=
          (List.cons.inj hreached).2
        cases reached with
        | nil =>
          -- the hit would end with the label
          have hlast := (List.append_inj' hmap rfl).2
          exact label.token_ne (by decide) (List.cons.inj hlast).1.symm
        | cons x reached =>
          -- the hit would go on with the colon behind the label
          obtain ⟨rfl, -⟩ := List.cons.inj hbehind
          have hcolon : .sign ':' ∈ mid ++ [keyword "map"] := by simp [hmap]
          exact hmid (by simpa [eq_comm] using hcolon)
  · exact ⟨front', hp⟩

/-- **A statement is seen whatever stands in front of it.** -/
theorem mem_of_finds_instantiation {front : List Token} {found : List (Option UnitRef)}
    {a : Option UnitRef} {label : Identifier}
    (hhit : Token.instantiation? (label.token :: .sign ':' :: ts) = some (a, rest))
    (h : Finds Token.instantiation? (front ++ label.token :: .sign ':' :: ts) found) :
    a ∈ found := by
  generalize hall : front ++ label.token :: .sign ':' :: ts = all at h
  induction h generalizing front with
  | nil => simp at hall
  | skip hmiss _ ih =>
    cases front with
    | nil => rw [← hall, List.nil_append, hhit] at hmiss; cases hmiss
    | cons t front => exact ih (List.cons.inj hall).2
  | hit hhit' _ ih =>
    cases front with
    | nil =>
      rw [← hall, List.nil_append, hhit] at hhit'
      cases hhit'
      exact List.mem_cons_self ..
    | cons t front =>
      rw [← hall] at hhit'
      obtain ⟨front', hfront⟩ := exists_behind_hit hhit'
      exact List.mem_cons_of_mem _ (ih hfront.symm)

/-! ## Statements -/

/-- **A map** of an instantiation. -/
inductive MapKind where
  /-- `generic map` -/
  | generic
  /-- `port map` -/
  | port

/-- The tokens of a map, in front of its associations. -/
def MapKind.tokens : MapKind → List Token
  | generic => [keyword "generic", keyword "map"]
  | port => [keyword "port", keyword "map"]

/-- **The direct instantiation of an entity**: `label : entity library.entity(architecture)`. -/
structure EntityStatement where
  /-- The label. -/
  label : Identifier
  /-- The library of the entity. -/
  library : Identifier
  /-- The entity. -/
  entity : Identifier
  /-- The architecture, which may be missing. -/
  architecture : Option Identifier

namespace EntityStatement

variable (s : EntityStatement)

/-- The tokens of the architecture in parentheses. -/
def architectureTokens : List Token :=
  match s.architecture with
  | some a => [.sign '(', a.token, .sign ')']
  | none => []

/-- **The tokens of the statement**, up to its maps or its semicolon. -/
def tokens : List Token :=
  s.label.token :: .sign ':' :: keyword "entity" :: s.library.token :: .sign '.' ::
    s.entity.token :: s.architectureTokens

/-- The unit that is instantiated. -/
def reference : UnitRef := ⟨some s.library.name, s.entity.name⟩

theorem mapAhead?_tokens (map : MapKind) (rest : List Token) :
    Token.mapAhead? (s.architectureTokens ++ (map.tokens ++ rest)) = some rest := by
  have hmap : Token.map? (map.tokens ++ rest) = some rest := by cases map <;> rfl
  have hnone : Token.architectureMap? (map.tokens ++ rest) = none := by cases map <;> rfl
  rw [architectureTokens]
  cases s.architecture with
  | none => simp [Token.mapAhead?, hnone, hmap]
  | some a =>
    have ha : Token.architectureMap? (.sign '(' :: a.token :: .sign ')' :: (map.tokens ++ rest)) =
        some rest := by
      simp [Token.architectureMap?, hmap]
    simp [Token.mapAhead?, ha]

/-- **The statement is read when a map follows.** -/
theorem instantiation?_tokens (map : MapKind) (rest : List Token) :
    Token.instantiation? (s.tokens ++ (map.tokens ++ rest)) = some (some s.reference, rest) :=
  Token.instantiation?_entity s.label s.library s.entity (s.mapAhead?_tokens map rest)

end EntityStatement

/-! ## Texts around a statement -/

variable {front cs back : List Char}

/-- **A statement starts behind a text** that is empty or ends with a semicolon, or with a blank.
Behind `begin` there is always one. -/
def StartsBehind (front cs : List Char) : Prop :=
  front = [] ∨ front.getLast? = some ';' ∨ ∃ c ∈ cs.head?, isBlank c = true

/-- No word reaches from a text into the statement behind it. -/
theorem StartsBehind.apart (h : StartsBehind front cs) : Apart front cs := by
  rcases h with rfl | hlast | hblank
  · exact Or.inl rfl
  · exact Or.inr (Or.inl ⟨';', hlast, Or.inr (by decide +kernel), by decide⟩)
  · exact Or.inr (Or.inr hblank)

/-- **An instantiated entity is seen** in every text without comments when a map follows. -/
theorem mem_instances_of_written (s : EntityStatement) (map : MapKind) {text : String}
    (htext : text.toList = front ++ cs) (hcode : ¬ ['-', '-'] <:+: text.toList)
    (hstarts : StartsBehind front cs) (h : Written back (s.tokens ++ map.tokens) cs) :
    s.reference ∈ (HdlFacts.ofText text).instances := by
  have hopen : ¬ InComment front := by
    refine not_inComment_of_not_infix fun hhyphens => hcode ?_
    rw [htext]
    exact hhyphens.trans (List.prefix_append front cs).isInfix
  obtain ⟨front', after, htokens⟩ := exists_tokens_part hopen hstarts.apart h
  have hfinds := finds_instantiations (scanned [] (front ++ cs))
  rw [htokens, List.append_assoc] at hfinds
  have hmem := mem_of_finds_instantiation (s.instantiation?_tokens map _) hfinds
  rw [ofText_eq, htext, factsOf, UnitRef.mem_setOf, List.mem_filterMap]
  exact ⟨_, hmem, rfl⟩

end RtlFlow.Vhdl

/-! ## The order of the files -/

namespace RtlFlow.Catalog

open DependencyGraph

variable {c : Catalog} {t : FileTree} {facts : FactTable} {plan : BuildPlan} {f g : SourceFile}
  {library unit text : String}

/-- **A file has a text** that is scanned. -/
structure HasText (t : FileTree) (f : SourceFile) (text : String) : Prop where
  /-- It is of a kind that is scanned. -/
  scanned : f.kind.isScanned = true
  /-- Its bytes are those of the text. -/
  read : ∃ bytes, t.read f.path = .ok bytes ∧ Text.decode bytes.toList = text

theorem about?_cons (p q : Path) (h : HdlFacts) (facts : FactTable) :
    FactTable.about? ((q, h) :: facts) p = if q.same p then some h else facts.about? p := by
  simp only [FactTable.about?, List.find?_cons]
  cases q.same p <;> simp

/-- **What is known of a file that is scanned** are the facts about its text. -/
theorem about?_scanFiles {files : List SourceFile} (h : scanFiles t files = .ok facts)
    (hdistinct : ∀ f ∈ files, ∀ g ∈ files, f.path.same g.path = true → f = g) (hf : f ∈ files)
    (htext : HasText t f text) : facts.about? f.path = some (HdlFacts.ofText text) := by
  induction files generalizing facts with
  | nil => cases hf
  | cons g files ih =>
    have hrest : ∀ {facts' : FactTable}, scanFiles t files = .ok facts' → f ≠ g →
        facts'.about? f.path = some (HdlFacts.ofText text) := fun hscan hne =>
      ih hscan (fun a ha b hb => hdistinct a (List.mem_cons_of_mem _ ha) b
        (List.mem_cons_of_mem _ hb)) ((List.mem_cons.mp hf).resolve_left hne)
    rw [scanFiles] at h
    split at h
    · cases hread : t.read g.path with
      | error e => simp [hread] at h
      | ok bytes =>
        cases hscan : scanFiles t files with
        | error e => simp [hread, hscan, bind, Except.bind] at h
        | ok facts' =>
          obtain rfl : (g.path, HdlFacts.ofText (Text.decode bytes.toList)) :: facts' = facts := by
            simpa [hread, hscan, bind, Except.bind, pure, Except.pure] using h
          rw [about?_cons]
          split
          · -- files with one path are one file, so that its text was read here
            rename_i hsame
            obtain rfl := hdistinct g (List.mem_cons_self ..) f hf hsame
            obtain ⟨bytes', hread', rfl⟩ := htext.read
            cases hread.symm.trans hread'
            rfl
          · rename_i hsame
            exact hrest hscan fun heq => hsame (by simp [heq])
    · rename_i hnot
      exact hrest h fun heq => hnot (heq ▸ htext.scanned)

/-- **A file with an instantiated entity**, as a file that names library and entity sees it: it is
any file of another library, or the first one of its own library that provides the entity. -/
inductive EntityFile (c : Catalog) (facts : FactTable) (f : SourceFile) (library unit : String)
    (g : SourceFile) : Prop
  /-- Another library, which is not one that is always there. -/
  | other (hg : g ∈ c.files) (hlibrary : g.library = library) (hne : g.library ≠ f.library)
      (hwork : library ≠ HdlFacts.workLibrary) (hbuiltin : library ∉ HdlFacts.builtinLibraries)
  /-- The own library, by its name or as `work`, where its files do not refer to each other in a
  ring. -/
  | own (hlibrary : library = f.library ∨ library = HdlFacts.workLibrary)
      (hfirst : FirstProvider facts (c.filesIn f.library) unit g) (hne : f ≠ g)
      (hacyclic : ¬ Cyclic (LocalReference facts f.library (c.filesIn f.library)))

/-- **A file stands behind the file of a unit that it uses or instantiates.** -/
theorem CompileOrder.behind_entityFile (h : c.CompileOrder facts plan) (hf : f ∈ c.files)
    {hdl : HdlFacts} (hfacts : facts.about? f.path = some hdl)
    (hnamed : ⟨some library, unit⟩ ∈ hdl.uses ∨ ⟨some library, unit⟩ ∈ hdl.instances)
    (hg : EntityFile c facts f library unit g) : plan.files.idxOf g < plan.files.idxOf f := by
  cases hg with
  | other hg hlibrary hne hwork hbuiltin =>
    refine h.library_first f hf g hg hne (Or.inr ⟨hdl, hfacts, ?_, ?_⟩)
    · exact Or.inr ⟨_, hnamed, congrArg some hlibrary.symm⟩
    · rw [hlibrary]
      exact ⟨hwork, hbuiltin⟩
  | own hlibrary hfirst hne hacyclic =>
    have hlocal : (some library : Option String) = some HdlFacts.workLibrary ∨
        some library = some f.library := by
      rcases hlibrary with hlibrary | hlibrary
      · exact Or.inr (congrArg some hlibrary)
      · exact Or.inl (congrArg some hlibrary)
    have hrefers : hdl.RefersTo f.library unit := by
      rcases hnamed with hused | hinstance
      · exact Or.inl ⟨_, hused, rfl, hlocal⟩
      · exact Or.inr ⟨_, hinstance, rfl, Or.inr hlocal⟩
    exact h.provider_first f.library hacyclic f g
      ⟨mem_filesIn.mpr ⟨hf, rfl⟩, hne, hdl, unit, hfacts, hrefers, hfirst⟩

/-- A plan is made from the facts about the files. -/
theorem resolve_eq (hfacts : scanFiles t c.files = .ok facts) :
    c.resolve t = c.resolveWith facts := by
  rw [resolve, hfacts]
  rfl

open Vhdl

/-- **Every direct entity instantiation with a map is seen**, wherever it stands in a text without
comments, and in every plan a file with this text stands behind the file of the entity. -/
theorem entity_first (s : EntityStatement) (map : MapKind) (text : String)
    (front cs back : List Char) (htext : text.toList = front ++ cs)
    (hcode : ¬ ['-', '-'] <:+: text.toList) (hstarts : StartsBehind front cs)
    (hwritten : Written back (s.tokens ++ map.tokens) cs) :
    s.reference ∈ (HdlFacts.ofText text).instances ∧
      ∀ {c : Catalog} {t : FileTree} {facts : FactTable} {plan : BuildPlan}, c.Registered →
        scanFiles t c.files = .ok facts → c.resolve t = .ok plan →
          ∀ f ∈ c.files, HasText t f text → ∀ g,
            EntityFile c facts f s.library.name s.entity.name g →
              plan.files.idxOf g < plan.files.idxOf f := by
  have hinstance := mem_instances_of_written s map htext hcode hstarts hwritten
  refine ⟨hinstance, fun hc hfacts hplan f hf hhas g hg => ?_⟩
  have habout := about?_scanFiles hfacts (fun a ha b hb => hc.eq_of_same_path ha hb) hf hhas
  rw [resolve_eq hfacts] at hplan
  exact (hc.compileOrder hplan).behind_entityFile hf habout (Or.inr hinstance) hg

/-- The instantiation of an entity with an architecture. -/
def direct : EntityStatement where
  label := ⟨"u1", by decide +kernel, by decide, by decide⟩
  library := ⟨"lib", by decide +kernel, by decide, by decide⟩
  entity := ⟨"ent", by decide +kernel, by decide, by decide⟩
  architecture := some ⟨"rtl", by decide +kernel, by decide, by decide⟩

/-- The text of a wrapper that instantiates it. -/
def wrapperText : String :=
  "architecture a of b is begin u1: Entity Lib.ent(rtl) port map(x=>y);end;"

/-- The file of the wrapper. -/
def wrapperFile : SourceFile := ⟨⟨"/p/top.vhd"⟩, "work", .vhdl, true, .empty, [], []⟩

/-- The file of the entity. -/
def entityFile : SourceFile := ⟨⟨"/p/ent.vhd"⟩, "lib", .vhdl, true, .empty, [], []⟩

/-- A catalog in which the wrapper is registered before the entity. -/
def wrapper : Catalog := ⟨⟨"/p"⟩, [wrapperFile, entityFile], [], .empty⟩

/-- Its files. -/
def wrapperFiles : FileTree :=
  ⟨[(["p"], .directory), (["p", "top.vhd"], .file wrapperText.toUTF8 false),
    (["p", "ent.vhd"], .file "entity ent is end;".toUTF8 false)], []⟩

/-- The facts about the wrapper. -/
theorem ofText_wrapperText :
    HdlFacts.ofText wrapperText = { instances := [⟨some "lib", "ent"⟩] } := by
  decide +kernel

theorem scanFiles_wrapper : scanFiles wrapperFiles wrapper.files =
    .ok [(⟨"/p/top.vhd"⟩, { instances := [⟨some "lib", "ent"⟩] }),
      (⟨"/p/ent.vhd"⟩, { entities := ["ent"] })] := by
  have hwrapper : Text.decode wrapperText.toUTF8.toList = wrapperText := by decide +kernel
  have hentity : HdlFacts.ofText (Text.decode "entity ent is end;".toUTF8.toList) =
      { entities := ["ent"] } := by
    decide +kernel
  have hscan : scanFiles wrapperFiles wrapper.files =
      .ok [(⟨"/p/top.vhd"⟩, HdlFacts.ofText (Text.decode wrapperText.toUTF8.toList)),
        (⟨"/p/ent.vhd"⟩, HdlFacts.ofText (Text.decode "entity ent is end;".toUTF8.toList))] := rfl
  rw [hscan, hwrapper, ofText_wrapperText, hentity]

/-- The wrapper is compiled after the entity. -/
theorem entity_first_wrapper :
    direct.reference ∈ (HdlFacts.ofText wrapperText).instances ∧
      ∃ plan, wrapper.resolve wrapperFiles = .ok plan ∧
        plan.files.idxOf entityFile < plan.files.idxOf wrapperFile := by
  have hwritten : Written "(x=>y);end;".toList (direct.tokens ++ MapKind.port.tokens)
      " u1: Entity Lib.ent(rtl) port map(x=>y);end;".toList :=
    .blank (by decide) <|
    .signed "u1" (c := ':') (by decide +kernel) (by decide +kernel) <|
    .blank (by decide) <|
    .spaced "Entity" (c := ' ') (by decide +kernel) (by decide) <|
    .signed "Lib" (c := '.') (by decide +kernel) (by decide +kernel) <|
    .signed "ent" (c := '(') (by decide +kernel) (by decide +kernel) <|
    .signed "rtl" (c := ')') (by decide +kernel) (by decide +kernel) <|
    .blank (by decide) <|
    .spaced "port" (c := ' ') (by decide +kernel) (by decide) <|
    @Written.word _ "map".toList _ _ (by decide +kernel)
      (fun _ hd => Option.some.inj hd ▸ Or.inr (by decide +kernel)) .nil
  obtain ⟨hinstance, hfirst⟩ := entity_first direct .port wrapperText
    "architecture a of b is begin".toList _ _ rfl (by decide +kernel)
    (Or.inr (Or.inr ⟨' ', rfl, by decide⟩)) hwritten
  have hregistered : wrapper.Registered :=
    .register (.register (.empty ⟨"/p"⟩) ⟨"top.vhd"⟩ "work" {} rfl) ⟨"ent.vhd"⟩ "lib" {} rfl
  have hplan : wrapper.resolve wrapperFiles =
      .ok ⟨[⟨"lib", [entityFile]⟩, ⟨"work", [wrapperFile]⟩]⟩ := by
    rw [resolve_eq scanFiles_wrapper]
    rfl
  refine ⟨hinstance, _, hplan, hfirst hregistered scanFiles_wrapper hplan wrapperFile
    (List.mem_cons_self ..) ⟨rfl, wrapperText.toUTF8, rfl, by decide +kernel⟩ entityFile ?_⟩
  exact .other (List.mem_cons_of_mem _ (List.mem_cons_self ..)) rfl (by decide) (by decide)
    (by decide)

/-- **Not every direct instantiation is seen**: one of an entity without generics and ports, which
is ended by its semicolon, is not. -/
theorem not_forall_entity_first :
    ¬ ∀ (s : EntityStatement) (text : String) (front cs back : List Char),
      text.toList = front ++ cs → ¬ ['-', '-'] <:+: text.toList → StartsBehind front cs →
        Written back (s.tokens ++ [.sign ';']) cs →
          s.reference ∈ (HdlFacts.ofText text).instances := by
  intro h
  have hwritten : Written " end;".toList
      ({ direct with architecture := none : EntityStatement }.tokens ++ [.sign ';'])
      " u1 : entity lib.ent; end;".toList :=
    .blank (by decide) <|
    .spaced "u1" (c := ' ') (by decide +kernel) (by decide) <|
    .sign (by decide +kernel) <| .blank (by decide) <|
    .spaced "entity" (c := ' ') (by decide +kernel) (by decide) <|
    .signed "lib" (c := '.') (by decide +kernel) (by decide +kernel) <|
    .signed "ent" (c := ';') (by decide +kernel) (by decide +kernel) .nil
  have hseen := h _ "architecture a of b is begin u1 : entity lib.ent; end;"
    "architecture a of b is begin".toList _ _ rfl (by decide +kernel)
    (Or.inr (Or.inr ⟨' ', rfl, by decide⟩)) hwritten
  exact absurd hseen (by decide +kernel)

end RtlFlow.Catalog
