import RtlFlow.Text.CharSet

/-! # Characters as ranges of bytes

The characters between two of them, in code point order, are split into stretches in which the
bytes of the encoding vary independently: each is a sequence of ranges of bytes. `byteRanges`
lists the stretches of a whole set in ascending order. -/

namespace RtlFlow

/-- **A range of bytes.** -/
structure ByteRange where
  /-- The first byte. -/
  first : Nat
  /-- The last byte. -/
  last : Nat
  deriving DecidableEq, Repr, Inhabited, Hashable

namespace CharSet

/-- The last code point before one that is encoded in more bytes, when it lies in the range and
does not end it. -/
def lengthCut? (a b : Nat) : Option Nat :=
  [0x7F, 0x7FF, 0xFFFF].find? fun m => a ≤ m && m < b

/-- The code point behind which a range has to be cut so that the bytes of blocks of `k` code
points are complete. -/
def blockCut? (a b k : Nat) : Option Nat :=
  if a / k = b / k then none
  else if a % k ≠ 0 then some (a / k * k + (k - 1))
  else if b % k ≠ k - 1 then some (b / k * k - 1)
  else none

/-- **Where a range of code points has to be cut**, if its bytes do not vary independently. -/
def cut? (a b : Nat) : Option Nat :=
  (lengthCut? a b).orElse fun _ =>
    if b ≤ 0x7F then none else [64, 4096, 262144].findSome? (blockCut? a b)

/-- The bytes of the two ends of a range, pairwise. -/
def endBytes (a b : Nat) : List ByteRange :=
  List.zipWith (fun x y => ⟨x.toNat, y.toNat⟩) (String.utf8EncodeChar (Char.ofNat a))
    (String.utf8EncodeChar (Char.ofNat b))

/-- The stretches of a range of code points. -/
def stretches (a b : Nat) : List (List ByteRange) :=
  match cut? a b with
  | some m =>
    if _ : a ≤ m ∧ m < b then stretches a m ++ stretches (m + 1) b else [endBytes a b]
  | none => [endBytes a b]
termination_by b - a

/-- **The stretches of a set**, in ascending order. -/
def byteRanges (s : CharSet) : List (List ByteRange) := s.ranges.flatMap fun (a, b) => stretches a b

end CharSet

end RtlFlow
