import RtlFlow.Text.Utf8
import RtlFlow.Proofs.Text.LowerCase
import Mathlib.Data.List.TakeDrop

/-! # Texts and their bytes

The bytes of a text are read as that text (`decode_encode`). Of any bytes, those below `0x80` are
read as themselves wherever they stand: the bytes before and behind such a byte are read as if it
was not there (`decode_append`), and a character below `U+0080` has such a byte among the bytes
(`mem_of_mem_decode`). -/

namespace RtlFlow.Text

/-- The bytes of an array one after the other, from a place on. -/
theorem toList_loop (bytes : ByteArray) (i : Nat) (done : List UInt8) :
    ByteArray.toList.loop bytes i done = done.reverse ++ bytes.data.toList.drop i := by
  induction i, done using ByteArray.toList.loop.induct bytes with
  | case1 i done hi ih =>
    have hsize : i < bytes.data.toList.length := by simpa using hi
    have hget : bytes.get! i = bytes.data.toList[i] := by
      simp [ByteArray.get!, getElem!_pos bytes.data i hi]
    rw [ByteArray.toList.loop, if_pos hi, ih, List.drop_eq_getElem_cons hsize, List.reverse_cons,
      List.append_assoc, hget]
    rfl
  | case2 i done hi =>
    have hsize : bytes.data.toList.length ≤ i := by simpa using hi
    rw [ByteArray.toList.loop, if_neg hi, List.drop_eq_nil_of_le hsize, List.append_nil]

theorem toList_eq_data (bytes : ByteArray) : bytes.toList = bytes.data.toList :=
  toList_loop bytes 0 []

/-- The bytes of an array make that array again. -/
theorem toByteArray_toList (bytes : ByteArray) : bytes.toList.toByteArray = bytes := by
  apply ByteArray.ext
  rw [← Array.toList_inj, List.toList_data_toByteArray, toList_eq_data]

/-- **The bytes of a text are read as that text.** -/
theorem decodeExact?_encode (s : String) : decodeExact? (encode s) = some s := by
  have hvalid : s.toUTF8.IsValidUTF8 := s.isValidUTF8
  unfold decodeExact? encode
  rw [toByteArray_toList, String.fromUTF8?, dif_pos hvalid]
  rfl

/-! ## Byte by byte -/

variable {b : UInt8} {bytes x : List UInt8} {p q : Partial}

/-- What a byte between characters completes, and the character that it begins. -/
def opened (b : UInt8) : List (Option Char) × Option Partial :=
  match beginChar b with
  | .inl c => ([c], none)
  | .inr p => ([], some p)

/-- **What a byte completes**, and the character that is then part way through. -/
def completed : Option Partial → UInt8 → List (Option Char) × Option Partial
  | none, b => opened b
  | some p, b =>
    if p.low ≤ b && b ≤ p.high then
      if p.owed ≤ 1 then ([some (Char.ofNat (p.bits * 64 + b.toNat % 64))], none)
      else ([], some ⟨p.bits * 64 + b.toNat % 64, p.owed - 1, 0x80, 0xBF⟩)
    else (none :: (opened b).1, (opened b).2)

/-- What is left part way through at the end forms no character. -/
def unfinished : Option Partial → List (Option Char)
  | none => []
  | some _ => [none]

/-- One byte is read. -/
theorem decodeFrom_cons (done : List (Option Char)) (pending : Option Partial) (b : UInt8)
    (bytes : List UInt8) : decodeFrom done pending (b :: bytes) =
      decodeFrom ((completed pending b).1.reverse ++ done) (completed pending b).2 bytes := by
  cases pending with
  | none =>
    rw [decodeFrom, completed, opened]
    cases beginChar b <;> rfl
  | some p =>
    rw [decodeFrom, completed, opened]
    split_ifs
    · rfl
    · rfl
    · cases beginChar b <;> rfl

/-- What has been read stands in front. -/
theorem decodeFrom_eq (done : List (Option Char)) (pending : Option Partial)
    (bytes : List UInt8) :
    decodeFrom done pending bytes = done.reverse ++ decodeFrom [] pending bytes := by
  induction bytes generalizing done pending with
  | nil => cases pending <;> simp [decodeFrom]
  | cons b bytes ih =>
    rw [decodeFrom_cons, decodeFrom_cons [], ih, ih (_ ++ [])]
    simp

theorem decodeFrom_nil_cons (pending : Option Partial) (b : UInt8) (bytes : List UInt8) :
    decodeFrom [] pending (b :: bytes) =
      (completed pending b).1 ++ decodeFrom [] (completed pending b).2 bytes := by
  rw [decodeFrom_cons, decodeFrom_eq, List.append_nil, List.reverse_reverse]

theorem decodeFrom_nil_nil (pending : Option Partial) :
    decodeFrom [] pending [] = unfinished pending := by
  cases pending <;> rfl

/-- A byte completes something or leaves a character part way through. -/
theorem exists_pending_of_completed {pending : Option Partial} (h : (completed pending b).1 = []) :
    ∃ p, (completed pending b).2 = some p := by
  have hopened (h : (opened b).1 = []) : ∃ p, (opened b).2 = some p := by
    rw [opened] at h ⊢
    cases hb : beginChar b with
    | inl c => simp [hb] at h
    | inr p => exact ⟨p, rfl⟩
  cases pending with
  | none => exact hopened h
  | some p =>
    rw [completed] at h ⊢
    split_ifs at h ⊢
    exact ⟨_, rfl⟩

theorem decodeFrom_some_ne_nil (p : Partial) (bytes : List UInt8) :
    decodeFrom [] (some p) bytes ≠ [] := by
  induction bytes generalizing p with
  | nil => simp [decodeFrom_nil_nil, unfinished]
  | cons b bytes ih =>
    rw [decodeFrom_nil_cons, Ne, List.append_eq_nil_iff]
    rintro ⟨hnone, hrest⟩
    obtain ⟨q, hq⟩ := exists_pending_of_completed hnone
    exact ih q (hq ▸ hrest)

/-- **Only no bytes are read as the empty text.** -/
theorem decode_eq_empty_iff : decode bytes = "" ↔ bytes = [] := by
  constructor
  · intro h
    have hnil : decodeFrom [] none bytes = [] := by simpa [decode, decodeChars] using h
    cases bytes with
    | nil => rfl
    | cons b bytes =>
      rw [decodeFrom_nil_cons, List.append_eq_nil_iff] at hnil
      obtain ⟨q, hq⟩ := exists_pending_of_completed hnil.1
      exact absurd (hq ▸ hnil.2) (decodeFrom_some_ne_nil q bytes)
  · rintro rfl
    rfl

/-! ## Characters of several bytes -/

/-- **A character part way through lies above `U+007F`**: it takes only bytes above `0x7F`, and
whichever they are its value will be too large. -/
structure Partial.IsWide (p : Partial) : Prop where
  /-- The next byte is none of ASCII. -/
  low : 0x80 ≤ p.low.toNat
  /-- The next byte is one that continues a character. -/
  high : p.high.toNat ≤ 0xBF
  /-- With one more byte, or with two, the value is large enough. -/
  bits : 2 ≤ p.bits ∨ 1 < p.owed ∧ 2 ≤ p.bits * 64 + (p.low.toNat - 0x80)

/-- A byte that begins a character of several bytes. -/
theorem isWide_of_beginChar (h : beginChar b = .inr p) : p.IsWide := by
  rw [beginChar] at h
  split at h
  · cases h
  · cases hlead : leadDemand? b with
    | none =>
      rw [hlead] at h
      cases h
    | some demand =>
      obtain ⟨owed, low, high⟩ := demand
      rw [hlead] at h
      obtain rfl := Sum.inr.inj h
      rw [leadDemand?] at hlead
      simp only [UInt8.le_iff_toNat_le, Bool.and_eq_true, decide_eq_true_eq, beq_iff_eq,
        ← UInt8.toNat_inj, UInt8.reduceToNat] at hlead
      split_ifs at hlead
      all_goals
        obtain ⟨rfl, rfl, rfl⟩ : owed = _ ∧ low = _ ∧ high = _ := by
          simpa [eq_comm] using hlead
        constructor <;> simp <;> omega

/-- A byte of ASCII begins no character of several bytes. -/
theorem beginChar_of_lt (hb : b < 0x80) : beginChar b = .inl (some (Char.ofNat b.toNat)) := by
  rw [beginChar, if_pos hb]

/-! ## Bytes of ASCII -/

/-- **A character part way through**, if there is one, lies above `U+007F`. -/
def WidePending (pending : Option Partial) : Prop := ∀ p ∈ pending, p.IsWide

theorem widePending_none : WidePending none := fun p hp => by cases hp

theorem widePending_opened (b : UInt8) : WidePending (opened b).2 := by
  rw [opened]
  cases hb : beginChar b with
  | inl c => exact widePending_none
  | inr p =>
    intro q hq
    obtain rfl := Option.some.inj hq
    exact isWide_of_beginChar hb

/-- The value of a byte that continues a character. -/
theorem Partial.IsWide.mod_eq (h : p.IsWide) (hlow : p.low ≤ b) (hhigh : b ≤ p.high) :
    b.toNat % 64 = b.toNat - 0x80 ∧ p.low.toNat ≤ b.toNat := by
  have hlow' := UInt8.le_iff_toNat_le.mp hlow
  have hhigh' := UInt8.le_iff_toNat_le.mp hhigh
  have h1 := h.low
  have h2 := h.high
  omega

/-- **A byte leaves a character above `U+007F`** part way through, if any. -/
theorem WidePending.completed {pending : Option Partial} (h : WidePending pending) (b : UInt8) :
    WidePending (completed pending b).2 := by
  cases pending with
  | none => exact widePending_opened b
  | some p =>
    have hp := h p rfl
    rw [Text.completed]
    split_ifs with htakes howed
    · exact widePending_none
    · intro q hq
      obtain rfl := Option.some.inj hq
      obtain ⟨hlow, hhigh⟩ : p.low ≤ b ∧ b ≤ p.high := by simpa using htakes
      obtain ⟨hmod, hle⟩ := hp.mod_eq hlow hhigh
      have hbits := hp.bits
      refine ⟨Nat.le_refl _, Nat.le_refl _, Or.inl ?_⟩
      show 2 ≤ p.bits * 64 + b.toNat % 64
      omega
    · exact widePending_opened b

/-- **A byte of ASCII is a character**, and ends what is part way through. -/
theorem completed_of_lt {pending : Option Partial} (h : WidePending pending) (hb : b < 0x80) :
    completed pending b = (unfinished pending ++ [some (Char.ofNat b.toNat)], none) := by
  have hopened : opened b = ([some (Char.ofNat b.toNat)], none) := by
    rw [opened, beginChar_of_lt hb]
  cases pending with
  | none => exact hopened
  | some p =>
    have hnot : ¬ (p.low ≤ b && b ≤ p.high) = true := by
      intro htakes
      have hlow := (h p rfl).low
      have hlt := UInt8.lt_iff_toNat_lt.mp hb
      have hle : p.low ≤ b := by simpa using (Bool.and_eq_true_iff.mp htakes).1
      have hle' := UInt8.le_iff_toNat_le.mp hle
      have hnumber : (0x80 : UInt8).toNat = 0x80 := rfl
      omega
    rw [completed, if_neg hnot, hopened]
    rfl

/-- Bytes are read on each side of a byte of ASCII, also behind a character part way through. -/
theorem decodeFrom_append {pending : Option Partial} (h : WidePending pending) (x : List UInt8)
    (hb : b < 0x80) (bytes : List UInt8) : decodeFrom [] pending (x ++ b :: bytes) =
      decodeFrom [] pending x ++ some (Char.ofNat b.toNat) :: decodeChars bytes := by
  induction x generalizing pending with
  | nil =>
    rw [List.nil_append, decodeFrom_nil_cons, completed_of_lt h hb, decodeFrom_nil_nil, decodeChars]
    simp
  | cons a x ih =>
    rw [List.cons_append, decodeFrom_nil_cons, decodeFrom_nil_cons, ih (h.completed a),
      List.append_assoc]

/-- **Bytes are read on each side of a byte of ASCII.** -/
theorem decode_append (x : List UInt8) (hb : b < 0x80) (bytes : List UInt8) :
    (decode (x ++ b :: bytes)).toList =
      (decode x).toList ++ Char.ofNat b.toNat :: (decode bytes).toList := by
  simp [decode, decodeChars, decodeFrom_append widePending_none x hb]

theorem decode_cons (hb : b < 0x80) (bytes : List UInt8) :
    (decode (b :: bytes)).toList = Char.ofNat b.toNat :: (decode bytes).toList :=
  decode_append [] hb bytes

/-- A character of ASCII is none of several bytes. -/
theorem lt_of_ofNat_eq {n : Nat} {c : Char} (hn : Char.ofNat n = c) (hpos : 0 < c.toNat)
    (hc : c.toNat < 0x80) : n < 0x80 := by
  by_cases hvalid : n.isValidChar
  · rw [← Unicode.toNat_ofNat_of_isValidChar hvalid, hn]
    exact hc
  · rw [Char.ofNat, dif_neg hvalid] at hn
    subst hn
    cases hpos

/-- A character of ASCII is completed by its byte alone. -/
theorem toNat_eq_of_mem_completed {pending : Option Partial} (h : WidePending pending) {c : Char}
    (hpos : 0 < c.toNat) (hc : c.toNat < 0x80) (hmem : some c ∈ (completed pending b).1) :
    b.toNat = c.toNat := by
  have hopened : some c ∈ (opened b).1 → b.toNat = c.toNat := by
    intro hmem
    rw [opened, beginChar] at hmem
    split_ifs at hmem with hb
    · have hlt := UInt8.lt_iff_toNat_lt.mp hb
      have hnumber : (0x80 : UInt8).toNat = 0x80 := rfl
      obtain rfl := Option.some.inj (List.mem_singleton.mp hmem)
      exact (Unicode.toNat_ofNat_of_isValidChar (Or.inl (by omega))).symm
    · cases hlead : leadDemand? b with
      | none => simp [hlead] at hmem
      | some demand => simp [hlead] at hmem
  cases pending with
  | none => exact hopened hmem
  | some p =>
    rw [completed] at hmem
    split_ifs at hmem with htakes howed
    · -- the value is that of a character above U+007F
      exfalso
      obtain ⟨hlow, hhigh⟩ : p.low ≤ b ∧ b ≤ p.high := by simpa using htakes
      obtain ⟨hmod, hle⟩ := (h p rfl).mod_eq hlow hhigh
      have hbits := (h p rfl).bits
      have hvalue := lt_of_ofNat_eq (Option.some.inj (List.mem_singleton.mp hmem)).symm hpos hc
      omega
    · cases hmem
    · refine hopened ?_
      simpa using hmem

/-- A character of ASCII stands for a byte, also behind a character part way through. -/
theorem exists_mem_of_mem_decodeFrom {pending : Option Partial} (h : WidePending pending)
    {c : Char} (hpos : 0 < c.toNat) (hc : c.toNat < 0x80)
    (hmem : some c ∈ decodeFrom [] pending bytes) : ∃ b ∈ bytes, b.toNat = c.toNat := by
  induction bytes generalizing pending with
  | nil => cases pending <;> simp [decodeFrom] at hmem
  | cons b bytes ih =>
    rw [decodeFrom_nil_cons, List.mem_append] at hmem
    rcases hmem with hmem | hmem
    · exact ⟨b, List.mem_cons_self .., toNat_eq_of_mem_completed h hpos hc hmem⟩
    · obtain ⟨a, ha, heq⟩ := ih (h.completed b) hmem
      exact ⟨a, List.mem_cons_of_mem _ ha, heq⟩

/-- **A character of ASCII stands for a byte.** -/
theorem mem_of_mem_decode {c : Char} (hpos : 0 < c.toNat) (hc : c.toNat < 0x80)
    (hmem : c ∈ (decode bytes).toList) : ∃ b ∈ bytes, b.toNat = c.toNat := by
  rw [decode, String.toList_ofList] at hmem
  obtain ⟨d, hd, hdc⟩ := List.mem_map.mp hmem
  cases d with
  | none =>
    -- the character for bytes that form none is not one of ASCII
    obtain rfl : replacementChar = c := hdc
    exact absurd hc (by decide)
  | some d =>
    obtain rfl : d = c := hdc
    exact exists_mem_of_mem_decodeFrom widePending_none hpos hc hd

/-! ## The bytes of characters -/

/-- A byte continues the character part way through: it lies within its bounds. -/
def Partial.Takes (p : Partial) (b : UInt8) : Prop :=
  p.low.toNat ≤ b.toNat ∧ b.toNat ≤ p.high.toNat

theorem Partial.Takes.bounds (h : p.Takes b) : (p.low ≤ b && b ≤ p.high) = true := by
  simpa [Partial.Takes, UInt8.le_iff_toNat_le] using h

/-- The last byte of a character completes it. -/
theorem decodeFrom_last (htakes : p.Takes b) (howed : p.owed = 1) (bytes : List UInt8) :
    decodeFrom [] (some p) (b :: bytes) =
      some (Char.ofNat (p.bits * 64 + b.toNat % 64)) :: decodeFrom [] none bytes := by
  rw [decodeFrom_nil_cons, completed, if_pos htakes.bounds, if_pos (Nat.le_of_eq howed)]
  rfl

/-- A byte of a character that others follow. -/
theorem decodeFrom_next (htakes : p.Takes b) (howed : 1 < p.owed) (bytes : List UInt8) :
    decodeFrom [] (some p) (b :: bytes) =
      decodeFrom [] (some ⟨p.bits * 64 + b.toNat % 64, p.owed - 1, 0x80, 0xBF⟩) bytes := by
  rw [decodeFrom_nil_cons, completed, if_pos htakes.bounds, if_neg (by omega)]
  rfl

/-- The first byte of a character of two bytes. -/
theorem decodeFrom_two (hlow : 0xC2 ≤ b.toNat) (hhigh : b.toNat ≤ 0xDF) (bytes : List UInt8) :
    decodeFrom [] none (b :: bytes) =
      decodeFrom [] (some ⟨b.toNat % 32, 1, 0x80, 0xBF⟩) bytes := by
  have hnot : ¬ b < 0x80 := by
    simp only [UInt8.lt_iff_toNat_lt, UInt8.reduceToNat]
    omega
  have hlead : leadDemand? b = some (1, 0x80, 0xBF) := by
    rw [leadDemand?, if_pos (by simpa [UInt8.le_iff_toNat_le] using ⟨hlow, hhigh⟩)]
  rw [decodeFrom_nil_cons, completed, opened, beginChar, if_neg hnot, hlead]
  rfl

/-- The first byte of a character of three bytes. -/
theorem decodeFrom_three (hlow : 0xE0 ≤ b.toNat) (hhigh : b.toNat ≤ 0xEF) (bytes : List UInt8) :
    decodeFrom [] none (b :: bytes) =
      decodeFrom [] (some ⟨b.toNat % 16, 2, if b.toNat = 0xE0 then 0xA0 else 0x80,
        if b.toNat = 0xED then 0x9F else 0xBF⟩) bytes := by
  have hnot : ¬ b < 0x80 := by
    simp only [UInt8.lt_iff_toNat_lt, UInt8.reduceToNat]
    omega
  have hlead : leadDemand? b = some (2, if b.toNat = 0xE0 then 0xA0 else 0x80,
      if b.toNat = 0xED then 0x9F else 0xBF) := by
    simp only [leadDemand?, UInt8.le_iff_toNat_le, Bool.and_eq_true, decide_eq_true_eq, beq_iff_eq,
      ← UInt8.toNat_inj, UInt8.reduceToNat]
    grind
  rw [decodeFrom_nil_cons, completed, opened, beginChar, if_neg hnot, hlead]
  rfl

/-- The first byte of a character of four bytes. -/
theorem decodeFrom_four (hlow : 0xF0 ≤ b.toNat) (hhigh : b.toNat ≤ 0xF4) (bytes : List UInt8) :
    decodeFrom [] none (b :: bytes) =
      decodeFrom [] (some ⟨b.toNat % 8, 3, if b.toNat = 0xF0 then 0x90 else 0x80,
        if b.toNat = 0xF4 then 0x8F else 0xBF⟩) bytes := by
  have hnot : ¬ b < 0x80 := by
    simp only [UInt8.lt_iff_toNat_lt, UInt8.reduceToNat]
    omega
  have hlead : leadDemand? b = some (3, if b.toNat = 0xF0 then 0x90 else 0x80,
      if b.toNat = 0xF4 then 0x8F else 0xBF) := by
    simp only [leadDemand?, UInt8.le_iff_toNat_le, Bool.and_eq_true, decide_eq_true_eq, beq_iff_eq,
      ← UInt8.toNat_inj, UInt8.reduceToNat]
    grind
  rw [decodeFrom_nil_cons, completed, opened, beginChar, if_neg hnot, hlead]
  rfl

/-- A number below 256 is that of a byte. -/
theorem exists_toNat_eq {n : Nat} (h : n < 256) : ∃ b, UInt8.ofNat n = b ∧ b.toNat = n :=
  ⟨_, rfl, by simpa using h⟩

/-- **The bytes of a character are read as that character**, whatever follows them. -/
theorem decodeFrom_utf8EncodeChar (c : Char) (bytes : List UInt8) :
    decodeFrom [] none (String.utf8EncodeChar c ++ bytes) =
      some c :: decodeFrom [] none bytes := by
  have hvalid : c.toNat < 0xD800 ∨ 0xDFFF < c.toNat ∧ c.toNat < 0x110000 := c.valid
  have hchar {n : Nat} (hn : n = c.toNat) : some (Char.ofNat n) = some c := by
    rw [hn, Char.ofNat_toNat]
  show decodeFrom [] none ((if c.toNat ≤ 127 then _ else if c.toNat ≤ 2047 then _ else
    if c.toNat ≤ 65535 then _ else _) ++ bytes) = _
  split_ifs with hone htwo hthree
  · obtain ⟨b, hb, hvalue⟩ := exists_toNat_eq (n := c.toNat) (by omega)
    have hlt : b < 0x80 := by
      simp only [UInt8.lt_iff_toNat_lt, UInt8.reduceToNat]
      omega
    show decodeFrom [] none (UInt8.ofNat c.toNat :: bytes) = _
    rw [hb, decodeFrom_nil_cons, completed_of_lt widePending_none hlt, hvalue, hchar rfl]
    rfl
  · obtain ⟨b₁, hb₁, h₁⟩ := exists_toNat_eq (n := c.toNat / 64 % 32 + 192) (by omega)
    obtain ⟨b₂, hb₂, h₂⟩ := exists_toNat_eq (n := c.toNat % 64 + 128) (by omega)
    show decodeFrom [] none (UInt8.ofNat (c.toNat / 64 % 32 + 192) ::
      UInt8.ofNat (c.toNat % 64 + 128) :: bytes) = _
    rw [hb₁, hb₂, decodeFrom_two (by omega) (by omega), decodeFrom_last _ rfl, hchar]
    · show b₁.toNat % 32 * 64 + b₂.toNat % 64 = _
      omega
    · constructor <;> simp only [UInt8.reduceToNat] <;> omega
  · obtain ⟨b₁, hb₁, h₁⟩ := exists_toNat_eq (n := c.toNat / 4096 % 16 + 224) (by omega)
    obtain ⟨b₂, hb₂, h₂⟩ := exists_toNat_eq (n := c.toNat / 64 % 64 + 128) (by omega)
    obtain ⟨b₃, hb₃, h₃⟩ := exists_toNat_eq (n := c.toNat % 64 + 128) (by omega)
    show decodeFrom [] none (UInt8.ofNat (c.toNat / 4096 % 16 + 224) ::
      UInt8.ofNat (c.toNat / 64 % 64 + 128) :: UInt8.ofNat (c.toNat % 64 + 128) :: bytes) = _
    rw [hb₁, hb₂, hb₃, decodeFrom_three (by omega) (by omega), decodeFrom_next _ (by simp),
      decodeFrom_last _ rfl, hchar]
    · simp only
      omega
    · constructor <;> simp only [UInt8.reduceToNat] <;> omega
    · constructor <;> simp only [apply_ite UInt8.toNat, UInt8.reduceToNat] <;> split_ifs <;> omega
  · obtain ⟨b₁, hb₁, h₁⟩ := exists_toNat_eq (n := c.toNat / 262144 % 8 + 240) (by omega)
    obtain ⟨b₂, hb₂, h₂⟩ := exists_toNat_eq (n := c.toNat / 4096 % 64 + 128) (by omega)
    obtain ⟨b₃, hb₃, h₃⟩ := exists_toNat_eq (n := c.toNat / 64 % 64 + 128) (by omega)
    obtain ⟨b₄, hb₄, h₄⟩ := exists_toNat_eq (n := c.toNat % 64 + 128) (by omega)
    show decodeFrom [] none (UInt8.ofNat (c.toNat / 262144 % 8 + 240) ::
      UInt8.ofNat (c.toNat / 4096 % 64 + 128) :: UInt8.ofNat (c.toNat / 64 % 64 + 128) ::
        UInt8.ofNat (c.toNat % 64 + 128) :: bytes) = _
    rw [hb₁, hb₂, hb₃, hb₄, decodeFrom_four (by omega) (by omega), decodeFrom_next _ (by simp),
      decodeFrom_next _ (by simp), decodeFrom_last _ rfl, hchar]
    · simp only
      omega
    · constructor <;> simp only [UInt8.reduceToNat] <;> omega
    · constructor <;> simp only [UInt8.reduceToNat] <;> omega
    · constructor <;> simp only [apply_ite UInt8.toNat, UInt8.reduceToNat] <;> split_ifs <;> omega

/-- **The bytes of a text are read as that text**, also where other bytes are let pass. -/
theorem decode_encode (s : String) : decode (encode s) = s := by
  have hbytes : encode s = s.toList.flatMap String.utf8EncodeChar := by
    have harray : s.toUTF8 = (s.toList.flatMap String.utf8EncodeChar).toByteArray := by
      have hlist := String.toByteArray_ofList (l := s.toList)
      rw [String.ofList_toList] at hlist
      exact hlist
    rw [encode, harray, toList_eq_data, List.data_toByteArray]
  have hchars (cs : List Char) :
      decodeFrom [] none (cs.flatMap String.utf8EncodeChar) = cs.map some := by
    induction cs with
    | nil => rfl
    | cons c cs ih => rw [List.flatMap_cons, decodeFrom_utf8EncodeChar, ih, List.map_cons]
  rw [hbytes, decode, decodeChars, hchars, List.map_map]
  exact (congrArg String.ofList (List.map_id _)).trans String.ofList_toList

end RtlFlow.Text
