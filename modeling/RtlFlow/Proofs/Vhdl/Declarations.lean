import RtlFlow.Proofs.Vhdl.Layout
import RtlFlow.Proofs.Vhdl.References
import RtlFlow.Proofs.Vhdl.Search

/-! # Declarations read back

Of a text that is made up of library clauses, use clauses, packages, package bodies, entities and
instantiations, in any order and any layout, the scan tells exactly what was written. Each kind of
clause is found at the declarations of its kind and passes the tokens of all others, because they
lack its keyword, or the colon behind a label. -/

namespace RtlFlow.Vhdl

open RtlFlow.Text
open RtlFlow.Text.Unicode

/-! ## Declarations -/

/-- The reserved words of which declarations are made up. -/
def reservedWords : List String :=
  ["all", "block", "body", "component", "end", "entity", "generic", "is", "library", "map",
    "package", "port", "process", "use"]

/-- **An identifier**, in lower case. -/
structure Identifier where
  /-- The name. -/
  name : String
  /-- It is a word of ASCII characters. -/
  ascii : IsAsciiWord name.toList
  /-- It has no capitals. -/
  lower : name.toList.map Char.toLower = name.toList
  /-- It is no reserved word. -/
  unreserved : name ∉ reservedWords

/-- The token of a keyword. -/
def keyword (k : String) : Token := .word k.toList

/-- The token of an identifier. -/
def Identifier.token (i : Identifier) : Token := .word i.name.toList

/-- **A declaration in one of the forms in which files are written.** -/
inductive Declaration where
  /-- `library first, others;` -/
  | libraryClause (first : Identifier) (others : List Identifier)
  /-- `use library.unit.all;` -/
  | useClause (library unit : Identifier)
  /-- `package name is end package;` -/
  | package (name : Identifier)
  /-- `package body name is end package body;` -/
  | packageBody (name : Identifier)
  /-- `entity name is end entity;` -/
  | entity (name : Identifier)
  /-- `label : entity library.unit port map (formal => actual);` -/
  | entityInstance (label library unit formal actual : Identifier)
  /-- `label : unit generic map (generic => value) port map (formal => actual);` -/
  | componentInstance (label unit generic value formal actual : Identifier)

namespace Declaration

/-- An association in parentheses. -/
def association (formal actual : Identifier) : List Token :=
  [.sign '(', formal.token, .sign '=', .sign '>', actual.token, .sign ')']

/-- The tokens of a declaration up to its semicolon. -/
def body : Declaration → List Token
  | libraryClause first others =>
    keyword "library" :: first.token :: others.flatMap fun i => [.sign ',', i.token]
  | useClause library unit =>
    [keyword "use", library.token, .sign '.', unit.token, .sign '.', keyword "all"]
  | package name =>
    [keyword "package", name.token, keyword "is", keyword "end", keyword "package"]
  | packageBody name =>
    [keyword "package", keyword "body", name.token, keyword "is", keyword "end",
      keyword "package", keyword "body"]
  | entity name =>
    [keyword "entity", name.token, keyword "is", keyword "end", keyword "entity"]
  | entityInstance label library unit formal actual =>
    [label.token, .sign ':', keyword "entity", library.token, .sign '.', unit.token,
      keyword "port", keyword "map"] ++ association formal actual
  | componentInstance label unit generic value formal actual =>
    [label.token, .sign ':', unit.token, keyword "generic", keyword "map"] ++
      association generic value ++ [keyword "port", keyword "map"] ++ association formal actual

/-- **The tokens of a declaration.** -/
def tokens (d : Declaration) : List Token := d.body ++ [.sign ';']

/-- The keywords of a declaration. -/
def keywords : Declaration → List String
  | libraryClause .. => ["library"]
  | useClause .. => ["use", "all"]
  | package _ => ["package", "is", "end"]
  | packageBody _ => ["package", "body", "is", "end"]
  | entity _ => ["entity", "is", "end"]
  | entityInstance .. => ["entity", "port", "map"]
  | componentInstance .. => ["generic", "port", "map"]

/-- The library clauses among the declarations: the names in each. -/
def libraryClauses : Declaration → List (List String)
  | libraryClause first others => [(first :: others).map (·.name)]
  | _ => []

/-- The libraries that a declaration names in a library clause. -/
def libraries (d : Declaration) : List String := d.libraryClauses.flatten

/-- The units that a declaration uses. -/
def uses : Declaration → List UnitRef
  | useClause library unit => [⟨some library.name, unit.name⟩]
  | _ => []

/-- The packages that a declaration declares. -/
def packages : Declaration → List String
  | package name => [name.name]
  | _ => []

/-- The entities that a declaration declares. -/
def entities : Declaration → List String
  | entity name => [name.name]
  | _ => []

/-- The units that a declaration instantiates. -/
def instances : Declaration → List UnitRef
  | entityInstance _ library unit _ _ => [⟨some library.name, unit.name⟩]
  | componentInstance _ unit _ _ _ _ => [⟨none, unit.name⟩]
  | _ => []

end Declaration

/-! ## Keywords and identifiers -/

variable {k : String} {ts rest : List Token}

@[simp] theorem keyword_inj {k' : String} : keyword k = keyword k' ↔ k = k' :=
  ⟨fun h => String.toList_injective (Token.word.inj h), congrArg keyword⟩

theorem Token.word_ne_sign (w : List Char) (c : Char) : Token.word w ≠ .sign c := fun h => by cases h

@[simp] theorem keyword_ne_sign (c : Char) : keyword k ≠ .sign c := Token.word_ne_sign _ c

@[simp] theorem Identifier.token_ne_sign (i : Identifier) (c : Char) : i.token ≠ .sign c :=
  Token.word_ne_sign _ c

theorem Identifier.token_ne (i : Identifier) (hk : k ∈ reservedWords) : i.token ≠ keyword k :=
  fun h => i.unreserved (String.toList_injective (Token.word.inj h) ▸ hk)

/-- A keyword stands only in declarations of which it is one. -/
theorem Declaration.keyword_notMem (d : Declaration) (hk : k ∈ reservedWords)
    (hd : k ∉ d.keywords) : keyword k ∉ d.tokens := by
  have hident : ∀ i : Identifier, keyword k ≠ i.token := fun i => (i.token_ne hk).symm
  cases d <;> simp_all [tokens, body, keywords, association]

@[simp] theorem Token.keyword?_keyword (k : String) (ts : List Token) :
    Token.keyword? k (keyword k :: ts) = some ts := if_pos rfl

theorem Token.keyword?_of_ne {t : Token} (h : t ≠ keyword k) (ts : List Token) :
    Token.keyword? k (t :: ts) = none := by
  cases t with
  | sign c => rfl
  | word w => exact if_neg fun hw => h (congrArg Token.word hw)

@[simp] theorem Token.word?_token (i : Identifier) (ts : List Token) :
    Token.word? (i.token :: ts) = some (i.name.toList, ts) := rfl

@[simp] theorem Token.word?_keyword (k : String) (ts : List Token) :
    Token.word? (keyword k :: ts) = some (k.toList, ts) := rfl

@[simp] theorem Token.sign?_sign (c : Char) (ts : List Token) :
    Token.sign? c (.sign c :: ts) = some ts := if_pos rfl

theorem Token.keyword?_token (i : Identifier) (hk : k ∈ reservedWords) (ts : List Token) :
    Token.keyword? k (i.token :: ts) = none := Token.keyword?_of_ne (i.token_ne hk) ts

/-! ## Clauses that are written -/

theorem Token.moreNames_written (others : List Identifier) (rest : List Token) :
    Token.moreNames (others.flatMap (fun i => [.sign ',', i.token]) ++ .sign ';' :: rest) =
      (others.map (·.name), .sign ';' :: rest) := by
  induction others with
  | nil =>
    rw [Token.moreNames_eq]
    rfl
  | cons i others ih =>
    rw [Token.moreNames_eq]
    simp [ih]

theorem Token.libraryClause?_written (first : Identifier) (others : List Identifier)
    (rest : List Token) :
    Token.libraryClause? (keyword "library" :: first.token ::
      (others.flatMap (fun i => [.sign ',', i.token]) ++ .sign ';' :: rest)) =
      some ((first :: others).map (·.name), rest) := by
  simp [Token.libraryClause?, Token.moreNames_written]

theorem Token.useClause?_written (library unit : Identifier) (rest : List Token) :
    Token.useClause? (keyword "use" :: library.token :: .sign '.' :: unit.token :: .sign '.' ::
      keyword "all" :: .sign ';' :: rest) = some (⟨some library.name, unit.name⟩, rest) := by
  simp [Token.useClause?, Token.skipSelection]

theorem Token.declaration?_written (k : String) (name : Identifier) (rest : List Token) :
    Token.declaration? k (keyword k :: name.token :: keyword "is" :: rest) =
      some (name.name, rest) := by
  simp [Token.declaration?]

/-- **The name of a unit in front of a map** is read. -/
theorem Token.instantiatedUnit?_written (unit : Identifier) (h : Token.mapAhead? ts = some rest) :
    Token.instantiatedUnit? (unit.token :: ts) = some (unit.name, rest) := by
  simp [Token.instantiatedUnit?, h]

/-- **The instantiation of an entity of a library** is read. -/
theorem Token.instantiation?_entity (label library unit : Identifier)
    (h : Token.mapAhead? ts = some rest) :
    Token.instantiation? (label.token :: .sign ':' :: keyword "entity" :: library.token ::
      .sign '.' :: unit.token :: ts) = some (some ⟨some library.name, unit.name⟩, rest) := by
  have hinstantiated : Token.instantiated? (library.token :: .sign '.' :: unit.token :: ts) =
      some (⟨some library.name, unit.name⟩, rest) := by
    simp [Token.instantiated?, Token.instantiatedUnit?_written unit h]
  simp [Token.instantiation?, hinstantiated]

/-- **The instantiation of a unit that is not qualified** is read. -/
theorem Token.instantiation?_component (label unit : Identifier) (hts : Token.sign? '.' ts = none)
    (h : Token.mapAhead? ts = some rest) :
    Token.instantiation? (label.token :: .sign ':' :: unit.token :: ts) =
      some (some ⟨none, unit.name⟩, rest) := by
  have hinstantiated : Token.instantiated? (unit.token :: ts) = some (⟨none, unit.name⟩, rest) := by
    simp [Token.instantiated?, hts, Token.instantiatedUnit?_written unit h]
  have hreserved : unit.name ∉ reservedUnits := fun hmem =>
    unit.unreserved ((by decide : ∀ k ∈ reservedUnits, k ∈ reservedWords) _ hmem)
  simp [Token.instantiation?, Token.keyword?_token unit (k := "entity") (by decide), hinstantiated,
    Token.unreserved?, hreserved]

/-! ## Finding declarations -/

namespace Finds

variable {α : Type} {form? : List Token → Option (α × List Token)} {found : List α}

/-- **Tokens without the keyword** of a kind of clause are passed. -/
theorem pass_of_keyword (hform : ∀ t ts, t ≠ keyword k → form? (t :: ts) = none)
    (hts : keyword k ∉ ts) (h : Finds form? rest found) : Finds form? (ts ++ rest) found :=
  .pass (fun t _ hsuffix => hform t _ fun ht =>
    hts (hsuffix.subset (ht ▸ List.mem_cons_self ..))) h

/-- **Tokens without a colon**, behind which a sign stands that is none, are passed by the search
for instantiations. -/
theorem pass_of_colon {found : List (Option UnitRef)} {c : Char} (hts : .sign ':' ∉ ts)
    (hc : c ≠ ':') (h : Finds Token.instantiation? rest found) :
    Finds Token.instantiation? (ts ++ .sign c :: rest) found := by
  refine .pass (fun t before hsuffix => ?_) (.skip rfl h)
  cases t with
  | sign d => rfl
  | word w =>
    -- the next token is one of those that are passed, or the sign behind them
    have hnext : Token.sign? ':' (before ++ .sign c :: rest) = none := by
      cases before with
      | nil => exact if_neg hc
      | cons u before =>
        cases u with
        | word v => rfl
        | sign d =>
          refine if_neg fun hd => hts (hsuffix.subset ?_)
          simp [hd]
    simp [Token.instantiation?, Token.word?, hnext]

/-- What is found in declarations one after the other. -/
theorem flatMap {answers : Declaration → List α}
    (hstep : ∀ d rest found, Finds form? rest found →
      Finds form? (d.tokens ++ rest) (answers d ++ found)) (ds : List Declaration) :
    Finds form? (ds.flatMap Declaration.tokens) (ds.flatMap answers) := by
  induction ds with
  | nil => exact .nil
  | cons d ds ih => exact hstep d _ _ ih

end Finds

theorem libraryClause?_of_ne (t : Token) (ts : List Token) (h : t ≠ keyword "library") :
    Token.libraryClause? (t :: ts) = none := by
  simp [Token.libraryClause?, Token.keyword?_of_ne h]

theorem useClause?_of_ne (t : Token) (ts : List Token) (h : t ≠ keyword "use") :
    Token.useClause? (t :: ts) = none := by
  simp [Token.useClause?, Token.keyword?_of_ne h]

theorem declaration?_of_ne (t : Token) (ts : List Token) (h : t ≠ keyword k) :
    Token.declaration? k (t :: ts) = none := by
  simp [Token.declaration?, Token.keyword?_of_ne h]

/-- A name that is not followed by `is` is not declared. -/
theorem declaration?_of_next {t u : Token} (hu : u ≠ keyword "is") (ts : List Token) :
    Token.declaration? k (keyword k :: t :: u :: ts) = none := by
  cases t with
  | sign c => simp [Token.declaration?, Token.word?]
  | word w => simp [Token.declaration?, Token.word?, Token.keyword?_of_ne hu]

/-- **Library clauses are found.** -/
theorem finds_libraryClause (d : Declaration) (rest : List Token) (found : List (List String))
    (h : Finds Token.libraryClause? rest found) :
    Finds Token.libraryClause? (d.tokens ++ rest) (d.libraryClauses ++ found) := by
  cases d with
  | libraryClause first others =>
    have hhit := Token.libraryClause?_written first others rest
    rw [List.append_cons] at hhit
    exact .hit hhit h
  | _ =>
    exact h.pass_of_keyword libraryClause?_of_ne
      (Declaration.keyword_notMem _ (by decide) (by simp [Declaration.keywords]))

/-- **Use clauses are found.** -/
theorem finds_useClause (d : Declaration) (rest : List Token) (found : List UnitRef)
    (h : Finds Token.useClause? rest found) :
    Finds Token.useClause? (d.tokens ++ rest) (d.uses ++ found) := by
  cases d with
  | useClause library unit => exact .hit (Token.useClause?_written library unit rest) h
  | _ =>
    exact h.pass_of_keyword useClause?_of_ne
      (Declaration.keyword_notMem _ (by decide) (by simp [Declaration.keywords]))

/-- **Packages are found**, and no bodies. -/
theorem finds_package (d : Declaration) (rest : List Token) (found : List String)
    (h : Finds (Token.declaration? "package") rest found) :
    Finds (Token.declaration? "package") (d.tokens ++ rest) (d.packages ++ found) := by
  cases d with
  | package name =>
    exact .hit (Token.declaration?_written "package" name _)
      (.skip (declaration?_of_ne _ _ (by decide)) (.skip rfl (.skip rfl h)))
  | packageBody name =>
    -- neither the name behind `body` nor the semicolon is the keyword `is`
    have hend : Finds (Token.declaration? "package")
        (keyword "package" :: keyword "body" :: .sign ';' :: rest) found :=
      .skip (declaration?_of_next (by decide) _)
        (.skip (declaration?_of_ne _ _ (by decide)) (.skip rfl h))
    have hbehind : Finds (Token.declaration? "package")
        ([keyword "body", name.token, keyword "is", keyword "end"] ++
          keyword "package" :: keyword "body" :: .sign ';' :: rest) found := by
      refine hend.pass_of_keyword declaration?_of_ne ?_
      simp [(name.token_ne (k := "package") (by decide)).symm]
    exact .skip (declaration?_of_next (name.token_ne (by decide)) _) hbehind
  | _ =>
    exact h.pass_of_keyword declaration?_of_ne
      (Declaration.keyword_notMem _ (by decide) (by simp [Declaration.keywords]))

/-- **Entities are found**, and no instantiations of them. -/
theorem finds_entity (d : Declaration) (rest : List Token) (found : List String)
    (h : Finds (Token.declaration? "entity") rest found) :
    Finds (Token.declaration? "entity") (d.tokens ++ rest) (d.entities ++ found) := by
  cases d with
  | entity name =>
    exact .hit (Token.declaration?_written "entity" name _)
      (.skip (declaration?_of_ne _ _ (by decide)) (.skip rfl (.skip rfl h)))
  | entityInstance label library unit formal actual =>
    have hident : ∀ i : Identifier, keyword "entity" ≠ i.token := fun i =>
      (i.token_ne (by decide)).symm
    have hbehind : Finds (Token.declaration? "entity")
        ([library.token, .sign '.', unit.token, keyword "port", keyword "map"] ++
          Declaration.association formal actual ++ [.sign ';'] ++ rest) found := by
      refine h.pass_of_keyword declaration?_of_ne ?_
      simp [Declaration.association, hident]
    exact .skip (declaration?_of_ne _ _ (hident label).symm) (.skip rfl
      (.skip (declaration?_of_next (by decide) _) hbehind))
  | _ =>
    exact h.pass_of_keyword declaration?_of_ne
      (Declaration.keyword_notMem _ (by decide) (by simp [Declaration.keywords]))

theorem mapAhead?_keyword {k : String} (hk : k = "generic" ∨ k = "port") (ts : List Token) :
    Token.mapAhead? (keyword k :: keyword "map" :: ts) = some ts := by
  rcases hk with rfl | rfl <;> rfl

/-- **Instantiations are found.** -/
theorem finds_instantiation (d : Declaration) (rest : List Token)
    (found : List (Option UnitRef)) (h : Finds Token.instantiation? rest found) :
    Finds Token.instantiation? (d.tokens ++ rest) (d.instances.map some ++ found) := by
  cases d with
  | entityInstance label library unit formal actual =>
    have hbehind : Finds Token.instantiation?
        (Declaration.association formal actual ++ .sign ';' :: rest) found :=
      h.pass_of_colon (by simp [Declaration.association, Identifier.token]) (by decide)
    exact .hit (Token.instantiation?_entity label library unit
      (mapAhead?_keyword (Or.inr rfl) _)) hbehind
  | componentInstance label unit generic value formal actual =>
    have hbehind : Finds Token.instantiation?
        (Declaration.association generic value ++ [keyword "port", keyword "map"] ++
          Declaration.association formal actual ++ .sign ';' :: rest) found :=
      h.pass_of_colon (by simp [Declaration.association, Identifier.token, keyword]) (by decide)
    exact .hit (Token.instantiation?_component label unit rfl
      (mapAhead?_keyword (Or.inl rfl) _)) hbehind
  | _ =>
    rw [Declaration.tokens, List.append_assoc]
    refine h.pass_of_colon ?_ (by decide)
    simp [Declaration.body, keyword, Identifier.token]

/-! ## The facts about declarations -/

/-- **A text writes declarations**, in any layout. The last line may have a comment and no end. -/
def Writes (ds : List Declaration) (text : String) : Prop :=
  ∃ tail, (tail = [] ∨ ∃ comment, '\n' ∉ comment ∧ tail = '-' :: '-' :: comment) ∧
    Written tail (ds.flatMap Declaration.tokens) text.toList

/-- **Facts tell what declarations say**, no less and no more. -/
structure Tells (facts : HdlFacts) (ds : List Declaration) : Prop where
  /-- The libraries are those of the library clauses. -/
  mem_libraries : ∀ l, l ∈ facts.libraries ↔ ∃ d ∈ ds, l ∈ d.libraries
  /-- The units that are used are those of the use clauses. -/
  mem_uses : ∀ r, r ∈ facts.uses ↔ ∃ d ∈ ds, r ∈ d.uses
  /-- The packages are those that are declared. -/
  mem_packages : ∀ p, p ∈ facts.packages ↔ ∃ d ∈ ds, p ∈ d.packages
  /-- The entities are those that are declared. -/
  mem_entities : ∀ e, e ∈ facts.entities ↔ ∃ d ∈ ds, e ∈ d.entities
  /-- The units that are instantiated are those of the instantiations. -/
  mem_instances : ∀ r, r ∈ facts.instances ↔ ∃ d ∈ ds, r ∈ d.instances

variable {ds : List Declaration} {text : String}

/-- The scan reads the tokens of the declarations. -/
theorem Writes.tokens_eq (h : Writes ds text) :
    tokens (scanned [] text.toList) = ds.flatMap Declaration.tokens := by
  obtain ⟨tail, htail, hwritten⟩ := h
  obtain ⟨before, heq⟩ := hwritten.tokens_eq []
  have hcode : codeFrom false tail = [] := by
    rcases htail with rfl | ⟨comment, hcomment, rfl⟩
    · rfl
    · rw [codeFrom, if_neg (by decide), if_neg (by simp), if_pos (by simp)]
      exact codeFrom_true_of_notMem (by simpa using hcomment)
  rw [heq, scanned, hcode, lowerFrom, tokens, List.append_nil]

/-- **The scan tells what was written**: the facts about a text that writes declarations are those
that the declarations say. -/
theorem tells_ofText (h : Writes ds text) : Tells (HdlFacts.ofText text) ds := by
  have htokens := h.tokens_eq
  have hlibraries : findAll libraryClause? (scanned [] text.toList) =
      ds.flatMap Declaration.libraryClauses :=
    (htokens ▸ finds_libraryClauses _).unique (.flatMap finds_libraryClause ds)
  have huses : findAll useClause? (scanned [] text.toList) = ds.flatMap Declaration.uses :=
    (htokens ▸ finds_useClauses _).unique (.flatMap finds_useClause ds)
  have hpackages : findAll packageClause? (scanned [] text.toList) =
      ds.flatMap Declaration.packages :=
    (htokens ▸ finds_packageClauses _).unique (.flatMap finds_package ds)
  have hentities : findAll entityClause? (scanned [] text.toList) =
      ds.flatMap Declaration.entities :=
    (htokens ▸ finds_entityClauses _).unique (.flatMap finds_entity ds)
  have hinstances : findAll instantiation? (scanned [] text.toList) =
      ds.flatMap fun d => d.instances.map some :=
    (htokens ▸ finds_instantiations _).unique (.flatMap finds_instantiation ds)
  rw [ofText_eq]
  constructor
  · intro l
    simp only [factsOf, Table.mem_textSet, hlibraries, List.mem_flatten, List.mem_flatMap,
      Declaration.libraries]
    constructor
    · rintro ⟨names, ⟨d, hd, hnames⟩, hl⟩
      exact ⟨d, hd, names, hnames, hl⟩
    · rintro ⟨d, hd, names, hnames, hl⟩
      exact ⟨names, ⟨d, hd, hnames⟩, hl⟩
  · intro r
    simp only [factsOf, UnitRef.mem_setOf, huses, List.mem_flatMap]
  · intro p
    simp only [factsOf, Table.mem_textSet, hpackages, List.mem_flatMap]
  · intro e
    simp only [factsOf, Table.mem_textSet, hentities, List.mem_flatMap]
  · intro r
    simp only [factsOf, UnitRef.mem_setOf, hinstances, List.mem_filterMap, List.mem_flatMap,
      List.mem_map, id]
    constructor
    · rintro ⟨_, ⟨d, hd, s, hs, rfl⟩, hr⟩
      exact ⟨d, hd, Option.some.inj hr ▸ hs⟩
    · rintro ⟨d, hd, hr⟩
      exact ⟨some r, ⟨d, hd, r, hr, rfl⟩, rfl⟩

/-- A library clause and an entity. -/
def header : List Declaration :=
  [.libraryClause ⟨"ieee", by decide +kernel, by decide, by decide⟩
      [⟨"common", by decide +kernel, by decide, by decide⟩],
    .entity ⟨"top", by decide +kernel, by decide, by decide⟩]

/-- Capitals, a comment and a line break change nothing. -/
theorem tells_header :
    Writes header "Library IEEE,Common; -- two\nentity Top is\nend entity;-- last" ∧
      Tells (HdlFacts.ofText "Library IEEE,Common; -- two\nentity Top is\nend entity;-- last")
        header := by
  have hlayout : Written "-- last".toList
      [.word "library".toList, .word "ieee".toList, .sign ',', .word "common".toList, .sign ';',
        .word "entity".toList, .word "top".toList, .word "is".toList, .word "end".toList,
        .word "entity".toList, .sign ';'] _ :=
    .spaced "Library" (c := ' ') (by decide +kernel) (by decide) <|
    .signed "IEEE" (by decide +kernel) (by decide +kernel) <|
    .signed "Common" (by decide +kernel) (by decide +kernel) <|
    .blank (c := ' ') (by decide) <| .comment " two".toList (by decide) <|
    .spaced "entity" (c := ' ') (by decide +kernel) (by decide) <|
    .spaced "Top" (c := ' ') (by decide +kernel) (by decide) <|
    .spaced "is" (c := '\n') (by decide +kernel) (by decide) <|
    .spaced "end" (c := ' ') (by decide +kernel) (by decide) <|
    .signed "entity" (by decide +kernel) (by decide +kernel) .nil
  have hwrites : Writes header "Library IEEE,Common; -- two\nentity Top is\nend entity;-- last" :=
    ⟨_, Or.inr ⟨" last".toList, by decide, rfl⟩, hlayout⟩
  exact ⟨hwrites, tells_ofText hwrites⟩

end RtlFlow.Vhdl
