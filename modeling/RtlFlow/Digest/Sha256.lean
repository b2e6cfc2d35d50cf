/-! # The SHA-256 digest

The digest of a list of bytes. The message is padded to whole blocks of sixteen words, every block
is stretched to sixty-four words by a recurrence on the sixteen words before, and the words are
mixed into a state of eight words, round by round. -/

namespace RtlFlow.Sha256

/-- The constants of the rounds: the first bits of the fractions of the cube roots of the first
sixty-four primes. -/
def roundConstants : List UInt32 :=
  [0x428a2f98, 0x71374491, 0xb5c0fbcf, 0xe9b5dba5, 0x3956c25b, 0x59f111f1, 0x923f82a4, 0xab1c5ed5,
   0xd807aa98, 0x12835b01, 0x243185be, 0x550c7dc3, 0x72be5d74, 0x80deb1fe, 0x9bdc06a7, 0xc19bf174,
   0xe49b69c1, 0xefbe4786, 0x0fc19dc6, 0x240ca1cc, 0x2de92c6f, 0x4a7484aa, 0x5cb0a9dc, 0x76f988da,
   0x983e5152, 0xa831c66d, 0xb00327c8, 0xbf597fc7, 0xc6e00bf3, 0xd5a79147, 0x06ca6351, 0x14292967,
   0x27b70a85, 0x2e1b2138, 0x4d2c6dfc, 0x53380d13, 0x650a7354, 0x766a0abb, 0x81c2c92e, 0x92722c85,
   0xa2bfe8a1, 0xa81a664b, 0xc24b8b70, 0xc76c51a3, 0xd192e819, 0xd6990624, 0xf40e3585, 0x106aa070,
   0x19a4c116, 0x1e376c08, 0x2748774c, 0x34b0bcb5, 0x391c0cb3, 0x4ed8aa4a, 0x5b9cca4f, 0x682e6ff3,
   0x748f82ee, 0x78a5636f, 0x84c87814, 0x8cc70208, 0x90befffa, 0xa4506ceb, 0xbef9a3f7, 0xc67178f2]

/-- **The state**: eight words. -/
structure State where
  /-- The first word. -/
  a : UInt32
  /-- The second word. -/
  b : UInt32
  /-- The third word. -/
  c : UInt32
  /-- The fourth word. -/
  d : UInt32
  /-- The fifth word. -/
  e : UInt32
  /-- The sixth word. -/
  f : UInt32
  /-- The seventh word. -/
  g : UInt32
  /-- The eighth word. -/
  h : UInt32
  deriving DecidableEq, Repr, Inhabited

/-- The first state: the first bits of the fractions of the square roots of the first eight
primes. -/
def start : State :=
  ⟨0x6a09e667, 0xbb67ae85, 0x3c6ef372, 0xa54ff53a,
   0x510e527f, 0x9b05688c, 0x1f83d9ab, 0x5be0cd19⟩

/-- The bits of a word turned to the right. -/
def turn (x : UInt32) (n : UInt32) : UInt32 := (x >>> n) ||| (x <<< (32 - n))

/-- The next word of a schedule, whose words so far are given last one first. -/
def nextWord (ws : List UInt32) : UInt32 :=
  let x := ws.getD 14 0
  let y := ws.getD 1 0
  ws.getD 15 0 + (turn x 7 ^^^ turn x 18 ^^^ (x >>> 3)) + ws.getD 6 0 +
    (turn y 17 ^^^ turn y 19 ^^^ (y >>> 10))

/-- The words of a schedule, last one first, with a number of further ones. -/
def stretch : Nat → List UInt32 → List UInt32
  | 0, ws => ws
  | n + 1, ws => stretch n (nextWord ws :: ws)

/-- One round with its constant and the word of the schedule. -/
def round (s : State) (k w : UInt32) : State :=
  let t := s.h + (turn s.e 6 ^^^ turn s.e 11 ^^^ turn s.e 25) +
    ((s.e &&& s.f) ^^^ (~~~s.e &&& s.g)) + k + w
  let u := (turn s.a 2 ^^^ turn s.a 13 ^^^ turn s.a 22) +
    ((s.a &&& s.b) ^^^ (s.a &&& s.c) ^^^ (s.b &&& s.c))
  ⟨t + u, s.a, s.b, s.c, s.d + t, s.e, s.f, s.g⟩

/-- The word-by-word sum of two states. -/
def State.add (s t : State) : State :=
  ⟨s.a + t.a, s.b + t.b, s.c + t.c, s.d + t.d, s.e + t.e, s.f + t.f, s.g + t.g, s.h + t.h⟩

/-- The state with a block mixed in; the words of the block are given last one first. -/
def compress (s : State) (block : List UInt32) : State :=
  s.add ((roundConstants.zip (stretch 48 block).reverse).foldl (fun s (k, w) => round s k w) s)

/-- Mixes in words block by block; `block` holds the words of the current block, last one first. -/
def absorb (s : State) (block : List UInt32) : List UInt32 → State
  | [] => s
  | w :: ws =>
    if block.length = 15 then absorb (compress s (w :: block)) [] ws else absorb s (w :: block) ws

/-- The words that bytes form, four at a time, first byte highest. -/
def wordsOf : List UInt8 → List UInt32
  | p :: q :: r :: s :: rest =>
    ((p.toUInt32 <<< 24) ||| (q.toUInt32 <<< 16) ||| (r.toUInt32 <<< 8) ||| s.toUInt32) ::
      wordsOf rest
  | _ => []

/-- The lowest bytes of a number, highest first. -/
def bytesOf (count n : Nat) : List UInt8 :=
  (List.range count).reverse.map fun i => UInt8.ofNat (n / Nat.pow 256 i % 256)

/-- The number of zero bytes in the padding of a message of `n` bytes. -/
def zeroCount (n : Nat) : Nat := (119 - n % 64) % 64

/-- What is put behind a message of `n` bytes: a set bit, zeros, and its length in bits. -/
def padding (n : Nat) : List UInt8 :=
  0x80 :: (List.replicate (zeroCount n) 0 ++ bytesOf 8 (8 * n))

/-- **The digest of a message**, as words. -/
def digest (message : List UInt8) : State :=
  absorb start [] (wordsOf (message ++ padding message.length))

/-- A hexadecimal digit in lower case. -/
def hexDigit (n : Nat) : Char := if n < 10 then Char.ofNat (48 + n) else Char.ofNat (87 + n)

/-- A word as eight hexadecimal digits. -/
def hexWord (w : UInt32) : List Char :=
  (List.range 8).reverse.map fun i => hexDigit (w.toNat / Nat.pow 16 i % 16)

/-- **The digest of a message in hexadecimal digits.** -/
def hex (message : List UInt8) : String :=
  let s := digest message
  String.ofList ([s.a, s.b, s.c, s.d, s.e, s.f, s.g, s.h].flatMap hexWord)

end RtlFlow.Sha256
