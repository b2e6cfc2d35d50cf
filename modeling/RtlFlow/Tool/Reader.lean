import RtlFlow.Text.Utf8

/-! # The output of a process

A process writes bytes, and they arrive in reads of any length. The reader of a stream cuts them
behind each line feed, decodes every line by itself, and keeps it without the line ends at its end
and with one line feed. -/

namespace RtlFlow.Launch

/-- **What is still to arrive of a stream**: the bytes of each read. An empty read is the end of the
stream. -/
abbrev Reads := List (List UInt8)

/-- The code of the line feed. -/
def lineFeed : UInt8 := 10

/-- **Reads up to the next line feed**, or to the end of the stream. `line` holds what is read of the
line so far, and `buffer` the bytes that have arrived behind it. With the line comes what is left of
the buffer and of the stream. -/
def readLine (line buffer : List UInt8) (reads : Reads) : List UInt8 × List UInt8 × Reads :=
  match buffer.dropWhile (· ≠ lineFeed), reads with
  | e :: rest, reads => (line ++ (buffer.takeWhile (· ≠ lineFeed) ++ [e]), rest, reads)
  | [], (b :: bs) :: reads => readLine (line ++ buffer) (b :: bs) reads
  | [], [] :: reads => (line ++ buffer, [], reads)
  | [], [] => (line ++ buffer, [], [])

variable {line buffer rest : List UInt8} {e : UInt8}

/-- A line feed that has arrived ends the line. -/
theorem readLine_of_cons (h : buffer.dropWhile (· ≠ lineFeed) = e :: rest) (reads : Reads) :
    readLine line buffer reads =
      (line ++ (buffer.takeWhile (· ≠ lineFeed) ++ [e]), rest, reads) := by
  rw [readLine.eq_def, h]

/-- Without a line feed the line goes on in the next read. -/
theorem readLine_of_nil_cons (h : buffer.dropWhile (· ≠ lineFeed) = []) (b : UInt8)
    (bs : List UInt8) (reads : Reads) :
    readLine line buffer ((b :: bs) :: reads) = readLine (line ++ buffer) (b :: bs) reads := by
  rw [readLine.eq_def, h]

/-- The end of the stream ends the line. -/
theorem readLine_of_nil_end (h : buffer.dropWhile (· ≠ lineFeed) = []) (reads : Reads) :
    readLine line buffer ([] :: reads) = (line ++ buffer, [], reads) := by
  rw [readLine.eq_def, h]

theorem readLine_of_nil_nil (h : buffer.dropWhile (· ≠ lineFeed) = []) :
    readLine line buffer [] = (line ++ buffer, [], []) := by
  rw [readLine.eq_def, h]

/-- **No byte is lost.** -/
theorem readLine_append (line buffer : List UInt8) (reads : Reads) :
    (readLine line buffer reads).1 ++
        ((readLine line buffer reads).2.1 ++ (readLine line buffer reads).2.2.flatten) =
      line ++ (buffer ++ reads.flatten) := by
  induction line, buffer, reads using readLine.induct with
  | case1 line buffer e rest reads hrest =>
    have hcut := List.takeWhile_append_dropWhile (p := (· ≠ lineFeed)) (l := buffer)
    rw [hrest] at hcut
    rw [readLine_of_cons hrest]
    calc
      _ = line ++ (buffer.takeWhile (· ≠ lineFeed) ++ e :: rest ++ reads.flatten) := by simp
      _ = line ++ (buffer ++ reads.flatten) := by rw [hcut]
  | case2 line buffer b bs reads hrest ih =>
    rw [readLine_of_nil_cons hrest, ih, List.append_assoc, List.flatten_cons]
  | case3 line buffer reads hrest =>
    rw [readLine_of_nil_end hrest, List.flatten_cons]
    simp
  | case4 line buffer hrest =>
    rw [readLine_of_nil_nil hrest]
    simp

/-- Whether a character belongs to the end of a line. -/
def isLineEnd (c : Char) : Bool := c = '\n' || c = '\r'

/-- A text without line ends at its end. -/
def trimLineEnds (cs : List Char) : List Char := (cs.reverse.dropWhile isLineEnd).reverse

/-- A line as it is kept: decoded, without the line ends at its end, and with one line feed. -/
def keptLine (line : List UInt8) : String :=
  String.ofList (trimLineEnds (Text.decode line).toList) ++ "\n"

/-- Reads line by line to the end of the stream, and puts each line behind those kept so far. -/
def gather (kept : String) (buffer : List UInt8) (reads : Reads) : String :=
  match _hline : readLine [] buffer reads with
  | ([], _, _) => kept
  | (b :: line, rest, later) => gather (kept ++ keptLine (b :: line)) rest later
termination_by (buffer ++ reads.flatten).length
decreasing_by
  have hlength := congrArg List.length (readLine_append [] buffer reads)
  rw [_hline] at hlength
  simp only [List.nil_append, List.cons_append, List.length_cons, List.length_append] at hlength ⊢
  omega

/-- **What is kept of a stream**: its lines, each decoded by itself. -/
def capture (reads : Reads) : String := gather "" [] reads

end RtlFlow.Launch
