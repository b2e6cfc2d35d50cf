/-! # Reading bytes as text

`decode` reads bytes as UTF-8. Bytes that belong to no character are not refused: every maximal
stretch that could still have begun a character is read as one replacement character. -/

namespace RtlFlow.Text

/-- The character that stands for bytes that form none. -/
def replacementChar : Char := '\uFFFD'

/-- What the first byte of a character demands: how many bytes follow it, and the least and the
greatest value of the first of these. -/
def leadDemand? (b : UInt8) : Option (Nat × UInt8 × UInt8) :=
  if 0xC2 ≤ b && b ≤ 0xDF then some (1, 0x80, 0xBF)
  else if b == 0xE0 then some (2, 0xA0, 0xBF)
  else if b == 0xED then some (2, 0x80, 0x9F)
  else if 0xE1 ≤ b && b ≤ 0xEF then some (2, 0x80, 0xBF)
  else if b == 0xF0 then some (3, 0x90, 0xBF)
  else if 0xF1 ≤ b && b ≤ 0xF3 then some (3, 0x80, 0xBF)
  else if b == 0xF4 then some (3, 0x80, 0x8F)
  else none

/-- A character part way through: its value so far, the bytes still owed, and the bounds of the
next byte. -/
structure Partial where
  /-- The bits read so far. -/
  bits : Nat
  /-- How many bytes are still owed. -/
  owed : Nat
  /-- The least value that the next byte may have. -/
  low : UInt8
  /-- The greatest value that the next byte may have. -/
  high : UInt8

/-- **One byte between characters**: the character that it is, none if it forms no character, or the
character that it begins. -/
def beginChar (b : UInt8) : Option Char ⊕ Partial :=
  if b < 0x80 then .inl (some (Char.ofNat b.toNat))
  else
    match leadDemand? b with
    | none => .inl none
    | some (owed, low, high) =>
      .inr ⟨b.toNat % (if owed = 1 then 32 else if owed = 2 then 16 else 8), owed, low, high⟩

/-- Reads bytes one by one: `done` holds the characters read, last one first and none for a stretch
of bytes that forms no character, and `pending` the character part way through. A byte that the
pending character cannot take closes it as such a stretch and is then read between characters. -/
def decodeFrom (done : List (Option Char)) (pending : Option Partial) :
    List UInt8 → List (Option Char)
  | [] => (match pending with | none => done | some _ => none :: done).reverse
  | b :: bs =>
    match pending with
    | none =>
      match beginChar b with
      | .inl c => decodeFrom (c :: done) none bs
      | .inr p => decodeFrom done (some p) bs
    | some p =>
      if p.low ≤ b && b ≤ p.high then
        let bits := p.bits * 64 + b.toNat % 64
        if p.owed ≤ 1 then decodeFrom (some (Char.ofNat bits) :: done) none bs
        else decodeFrom done (some ⟨bits, p.owed - 1, 0x80, 0xBF⟩) bs
      else
        match beginChar b with
        | .inl c => decodeFrom (c :: none :: done) none bs
        | .inr q => decodeFrom (none :: done) (some q) bs

/-- **The characters that bytes form**, and none for every stretch that forms no character. -/
def decodeChars (bytes : List UInt8) : List (Option Char) := decodeFrom [] none bytes

/-- **Bytes read as text.** -/
def decode (bytes : List UInt8) : String :=
  String.ofList ((decodeChars bytes).map fun c => c.getD replacementChar)

/-- The bytes as text when every one of them belongs to a character. -/
def decodeExact? (bytes : List UInt8) : Option String := String.fromUTF8? bytes.toByteArray

/-- **The bytes of a text.** -/
def encode (s : String) : List UInt8 := s.toUTF8.toList

end RtlFlow.Text
