import RtlFlow.Plan.Resolve
import RtlFlow.Proofs.Text.Utf8
import RtlFlow.Proofs.Vhdl.Layout

/-! # The bytes of comments

The bytes of a file are read as text before its comments are dropped, and a comment may hold bytes
that form no character, up to the line feed that ends it. Bytes of ASCII are read as themselves
wherever they stand, so that such bytes neither swallow the line feed nor make one, and nothing of
them is left in the text that is scanned (`SameCode.codeFrom_eq`). So the facts about a file do not
depend on the bytes of its comments, and neither does the plan. -/

namespace RtlFlow.Vhdl

open RtlFlow.Text

/-- The byte of a hyphen. -/
def hyphenByte : UInt8 := 0x2D

/-- The byte of a line feed. -/
def feedByte : UInt8 := 0x0A

/-- **Two files with the same code**: outside of comments they have the same bytes, all of ASCII,
and behind two hyphens there stand any bytes in each, up to the end of the line. -/
inductive SameCode : List UInt8 → List UInt8 → Prop
  /-- Two files at their ends. -/
  | nil : SameCode [] []
  /-- A byte of ASCII in both. -/
  | code {b : UInt8} {x y : List UInt8} (hb : b < 0x80) (h : SameCode x y) :
      SameCode (b :: x) (b :: y)
  /-- A comment in each. -/
  | comment {u v x y : List UInt8} (hu : feedByte ∉ u) (hv : feedByte ∉ v) (h : SameCode x y) :
      SameCode (hyphenByte :: hyphenByte :: (u ++ x)) (hyphenByte :: hyphenByte :: (v ++ y))

namespace SameCode

variable {u x y : List UInt8}

/-- Files with the same code go on with the same code. -/
theorem append (hu : ∀ b ∈ u, b < 0x80) (h : SameCode x y) : SameCode (u ++ x) (u ++ y) := by
  induction u with
  | nil => exact h
  | cons b u ih =>
    have hrest := ih fun a ha => hu a (List.mem_cons_of_mem _ ha)
    exact .code (hu b (List.mem_cons_self ..)) hrest

/-- A byte of ASCII stands in front, unless the file is at its end. -/
theorem head?_lt (h : SameCode x y) : ∀ b ∈ x.head?, b < 0x80 := by
  have hhyphen : hyphenByte < 0x80 := by decide
  cases h <;> simp_all

/-- The same holds of both files. -/
theorem symm (h : SameCode x y) : SameCode y x := by
  induction h with
  | nil => exact .nil
  | code hb _ ih => exact .code hb ih
  | comment hu hv _ ih => exact .comment hv hu ih

/-- The two files begin with the same character. -/
theorem head?_eq (h : SameCode x y) : (decode x).toList.head? = (decode y).toList.head? := by
  cases h with
  | nil => rfl
  | code hb _ => rw [decode_cons hb, decode_cons hb]; rfl
  | comment _ _ _ =>
    have hhyphen : ∀ z, (decode (hyphenByte :: z)).toList.head? = some '-' := by
      intro z
      rw [decode_cons (by decide)]
      rfl
    rw [hhyphen, hhyphen]

end SameCode

variable {u x y : List UInt8}

/-- **Bytes are read on each side of a place** behind which a byte of ASCII stands, or nothing. -/
theorem toList_decode_append (u : List UInt8) (hx : ∀ b ∈ x.head?, b < 0x80) :
    (decode (u ++ x)).toList = (decode u).toList ++ (decode x).toList := by
  cases x with
  | nil => simp [decode, decodeChars, decodeFrom]
  | cons b x =>
    have hb : b < 0x80 := hx b rfl
    rw [decode_append u hb, decode_cons hb]

/-- **A comment is passed**, whatever its bytes are. -/
theorem codeFrom_comment (hu : feedByte ∉ u) (hx : ∀ b ∈ x.head?, b < 0x80) (inComment : Bool) :
    codeFrom inComment (decode (hyphenByte :: hyphenByte :: (u ++ x))).toList =
      codeFrom true (decode x).toList := by
  have hhyphen : hyphenByte < 0x80 := by decide
  have hchar : Char.ofNat hyphenByte.toNat = '-' := by decide
  have hline : '\n' ∉ (decode u).toList := by
    intro hmem
    obtain ⟨b, hb, heq⟩ := mem_of_mem_decode (by decide) (by decide) hmem
    have hfeed : b = feedByte := UInt8.toNat_inj.mp heq
    exact hu (hfeed ▸ hb)
  -- the hyphens begin a comment, or stand in the one that was begun
  have hopen : ∀ cs, codeFrom inComment ('-' :: '-' :: cs) = codeFrom true cs := by
    intro cs
    have hhyphenLine : '\n' ∉ ['-'] := by decide
    have hnext : codeFrom true ('-' :: cs) = codeFrom true cs := codeFrom_true_pass hhyphenLine cs
    cases inComment with
    | true => rw [codeFrom, if_neg (by decide), if_pos rfl, hnext]
    | false => rw [codeFrom, if_neg (by decide), if_neg (by simp), if_pos (by simp), hnext]
  rw [decode_cons hhyphen, decode_cons hhyphen, hchar, hopen, toList_decode_append u hx,
    codeFrom_true_pass hline]

/-- **Files with the same code are the same text without their comments**, inside of a comment and
outside. -/
theorem SameCode.codeFrom_eq (h : SameCode x y) (inComment : Bool) :
    codeFrom inComment (decode x).toList = codeFrom inComment (decode y).toList := by
  induction h generalizing inComment with
  | nil => rfl
  | @code b x y hb h ih =>
    rw [decode_cons hb, decode_cons hb]
    -- what becomes of the character depends on the next one, which is the same
    have hhead := h.head?_eq
    have hempty : (decode x).toList.isEmpty = (decode y).toList.isEmpty := by
      rw [Bool.eq_iff_iff, List.isEmpty_iff, List.isEmpty_iff, ← List.head?_eq_none_iff,
        ← List.head?_eq_none_iff, hhead]
    rw [codeFrom, codeFrom, hhead, hempty, ih, ih]
  | comment hu hv h ih =>
    rw [codeFrom_comment hu h.head?_lt, codeFrom_comment hv h.symm.head?_lt, ih]

/-- **The facts about a file do not depend on the bytes of its comments.** -/
theorem SameCode.ofText_eq (h : SameCode x y) :
    HdlFacts.ofText (decode x) = HdlFacts.ofText (decode y) := by
  rw [Vhdl.ofText_eq, Vhdl.ofText_eq, scanned, scanned, h.codeFrom_eq]

end RtlFlow.Vhdl

/-! ## The plan -/

namespace RtlFlow.Catalog

open Vhdl

/-- **A file differs in the bytes of its comments** between two file trees, or not at all. -/
def DiffersInComments (t t' : FileTree) (p : Path) : Prop :=
  t.read p = t'.read p ∨ ∃ bytes bytes' : ByteArray, t.read p = .ok bytes ∧ t'.read p = .ok bytes' ∧
    SameCode bytes.toList bytes'.toList

variable {t t' : FileTree}

/-- **The facts about files do not depend on the bytes of comments.** -/
theorem scanFiles_eq_of_sameCode {files : List SourceFile}
    (h : ∀ f ∈ files, f.kind.isScanned = true → DiffersInComments t t' f.path) :
    scanFiles t files = scanFiles t' files := by
  induction files with
  | nil => rfl
  | cons f files ih =>
    have hrest := ih fun g hg => h g (List.mem_cons_of_mem _ hg)
    rw [scanFiles, scanFiles]
    split_ifs with hscanned
    · rcases h f (List.mem_cons_self ..) hscanned with hread | ⟨bytes, bytes', hread, hread', hsame⟩
      · rw [hread, hrest]
      · rw [hread, hread']
        dsimp only
        rw [hsame.ofText_eq, hrest]
    · exact hrest

/-- **The bytes of comments change nothing**: two files with the same code have the same facts, and
when the files of a catalog differ in the bytes of their comments alone, the facts about them and
the outcome of ordering them are the same. -/
theorem resolve_of_sameCode :
    (∀ x y : List UInt8, SameCode x y →
      HdlFacts.ofText (Text.decode x) = HdlFacts.ofText (Text.decode y)) ∧
    ∀ (c : Catalog) (t t' : FileTree),
      (∀ f ∈ c.files, f.kind.isScanned = true → DiffersInComments t t' f.path) →
        scanFiles t c.files = scanFiles t' c.files ∧ c.resolve t = c.resolve t' := by
  refine ⟨fun x y h => h.ofText_eq, fun c t t' h => ?_⟩
  have hfacts := scanFiles_eq_of_sameCode h
  refine ⟨hfacts, ?_⟩
  rw [resolve, resolve, hfacts]

/-- The bytes of a file that needs a library, with a comment in front. -/
def commentedBytes (comment : List UInt8) : List UInt8 :=
  hyphenByte :: hyphenByte :: (comment ++ (Text.encode "\nlibrary util;"))

/-- A catalog with such a file, and a file of the library behind it. -/
def commented : Catalog :=
  ⟨⟨"/p"⟩, [⟨⟨"/p/top.vhd"⟩, "work", .vhdl, true, .empty, [], []⟩,
    ⟨⟨"/p/pkg.vhd"⟩, "util", .vhdl, true, .empty, [], []⟩], [], .empty⟩

/-- Its files. -/
def commentedFiles (comment : List UInt8) : FileTree :=
  ⟨[(["p"], .directory),
    (["p", "top.vhd"], .file (commentedBytes comment).toByteArray false),
    (["p", "pkg.vhd"], .file ByteArray.empty false)], []⟩

/-- A comment in another encoding, which ends in the first bytes of a character. -/
def latinComment : List UInt8 := [0x20, 0xE9, 0x2D, 0xFF, 0xE2, 0x80]

/-- The comment may as well be empty, and the clause behind it is seen. -/
theorem resolve_of_sameCode_latinComment :
    HdlFacts.ofText (Text.decode (commentedBytes latinComment)) =
        HdlFacts.ofText (Text.decode (commentedBytes [])) ∧
      (HdlFacts.ofText (Text.decode (commentedBytes latinComment))).libraries = ["util"] ∧
      commented.resolve (commentedFiles latinComment) = commented.resolve (commentedFiles []) := by
  have hsame : SameCode (commentedBytes latinComment) (commentedBytes []) := by
    have hcode : SameCode (Text.encode "\nlibrary util;" ++ [])
        (Text.encode "\nlibrary util;" ++ []) :=
      .append (by decide +kernel) .nil
    rw [List.append_nil] at hcode
    exact .comment (by decide) (by decide) hcode
  have htop : DiffersInComments (commentedFiles latinComment) (commentedFiles [])
      ⟨"/p/top.vhd"⟩ := by
    have hlatin : (commentedBytes latinComment).toByteArray.toList =
        commentedBytes latinComment := by
      decide +kernel
    have hempty : (commentedBytes []).toByteArray.toList = commentedBytes [] := by decide +kernel
    exact Or.inr ⟨_, _, rfl, rfl, by rwa [hlatin, hempty]⟩
  obtain ⟨hscan, hresolve⟩ := resolve_of_sameCode
  refine ⟨hscan _ _ hsame, by decide +kernel, (hresolve commented _ _ ?_).2⟩
  intro f hf hscanned
  rcases List.mem_cons.mp hf with rfl | hf
  · exact htop
  · obtain rfl := List.mem_singleton.mp hf
    exact Or.inl rfl

end RtlFlow.Catalog
