import RtlFlow.Text.Lines

/-! # Streams of bytes

What one program hands to another: some bytes, and behind them possibly a group of bytes that
comes again and again without end. -/

namespace RtlFlow.Shell

/-- **A value of the shell**: bytes, written as the characters with their codes. -/
abbrev Field := List Char

/-- **A stream.** -/
structure ByteStream where
  /-- The bytes at the beginning. -/
  start : List Char
  /-- What follows them without end; nothing when the stream ends. -/
  cycle : List Char
  deriving DecidableEq, Repr, Inhabited

namespace ByteStream

/-- The stream without bytes. -/
def empty : ByteStream := ⟨[], []⟩

/-- The stream that ends behind some bytes. -/
def ofList (cs : List Char) : ByteStream := ⟨cs, []⟩

/-- The stream that repeats some bytes. -/
def repeating (cs : List Char) : ByteStream := ⟨[], cs⟩

/-- Whether the stream has no end. -/
def isEndless (s : ByteStream) : Bool := !s.cycle.isEmpty

/-- One stream behind another. -/
def append (s t : ByteStream) : ByteStream :=
  if s.isEndless then s else ⟨s.start ++ t.start, t.cycle⟩

/-- The stream with every byte replaced by some bytes. -/
def flatMap (f : Char → List Char) (s : ByteStream) : ByteStream :=
  ⟨s.start.flatMap f, s.cycle.flatMap f⟩

/-- The first bytes of a stream. -/
def take (n : Nat) (s : ByteStream) : List Char :=
  if s.start.length < n && s.isEndless then
    let missing := n - s.start.length
    s.start ++ (List.replicate (missing / s.cycle.length + 1) s.cycle).flatten.take missing
  else s.start.take n

end ByteStream

/-- Bytes cut behind each line feed. -/
def linesWithEnds (cs : List Char) : List (List Char) :=
  match (Text.piecesAt '\n' [] cs).reverse with
  | [] => []
  | final :: whole =>
    (whole.reverse.map (· ++ ['\n'])) ++ (if final.isEmpty then [] else [final])

/-- The first lines of a stream. -/
def ByteStream.takeLines (n : Nat) (s : ByteStream) : ByteStream :=
  if s.cycle.contains '\n' then
    .ofList ((linesWithEnds (s.start ++ (List.replicate n s.cycle).flatten)).take n).flatten
  else
    let lines := linesWithEnds s.start
    if s.isEndless && lines.length ≤ n then s else .ofList (lines.take n).flatten

end RtlFlow.Shell
