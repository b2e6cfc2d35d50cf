import RtlFlow.Pattern.Matching
import RtlFlow.Pattern.Reading
import RtlFlow.Shell.Utility.Printing

/-! # Filters

The utilities that copy, cut, count and search streams. -/

namespace RtlFlow.Shell

/-- A complaint of a utility about an operand. -/
def complaintAbout (utility : String) (name : String) (e : Fault) : String :=
  utility ++ ": " ++ name ++ ": " ++ faultText e

/-- A reply with complaints, which make it fail. -/
def Reply.complaining (r : Reply) (complaints : List String) : Reply :=
  if complaints.isEmpty then r
  else ⟨r.output, r.complaints ++ complaints, if r.status = 0 then 1 else r.status⟩

/-- The stream of several streams, one behind the other. -/
def joinStreams (streams : List (Field × ByteStream)) : ByteStream :=
  streams.foldl (fun s (_, t) => s.append t) .empty

/-- **Copies its operands to its output.** -/
def cat : Utility := fun args input => do
  let (_, files) := letters args
  let (streams, complaints) := operands (complaintAbout "cat") files input (← get)
  return (Reply.ofStream (joinStreams streams)).complaining complaints

/-- **Copies its input to its output and to files.** -/
def tee : Utility := fun args input => do
  let (options, files) := letters args
  let complaints ← files.mapM fun f => do
    let t ← get
    let path := pathOf f
    let before := match t.read path with
      | .ok content => if options.contains 'a' then content else ByteArray.empty
      | .error _ => ByteArray.empty
    match (FileTree.write path (before ++ octetFile input.start)).run t with
    | (.ok _, t) =>
      set t
      return []
    | (.error e, _) => return [complaintAbout "tee" path.text e]
  return (Reply.ofStream input).complaining complaints.flatten

/-- How much of a stream is asked for: bytes or lines, and whether the number counts from the
other end. -/
structure Extent where
  /-- Bytes, not lines. -/
  bytes : Bool
  /-- How many. -/
  count : Nat
  /-- Whether a sign stands before the number. -/
  sign : Option Char
  deriving Repr

/-- The extent that a number writes. -/
def Extent.read? (bytes : Bool) : Field → Option Extent
  | c :: digits =>
    if c = '-' || c = '+' then (natOf? digits).map fun n => ⟨bytes, n, some c⟩
    else (natOf? (c :: digits)).map fun n => ⟨bytes, n, none⟩
  | [] => none

/-- Reads the options of `head` and `tail`: the extent and the operands. -/
def readExtent (e : Extent) : List Field → Option (Extent × List Field)
  | [] => some (e, [])
  | ['-', 'c'] :: n :: rest => do readExtent (← Extent.read? true n) rest
  | ['-', 'n'] :: n :: rest => do readExtent (← Extent.read? false n) rest
  | ('-' :: 'c' :: n) :: rest => do readExtent (← Extent.read? true n) rest
  | ('-' :: 'n' :: n) :: rest => do readExtent (← Extent.read? false n) rest
  | ['-', 'q'] :: rest => readExtent e rest
  | ['-', '-'] :: rest => some (e, rest)
  | f :: rest =>
    if isOption f then do readExtent (← Extent.read? false (f.drop 1)) rest else some (e, f :: rest)

/-- The complaint about a file that cannot be opened for reading. -/
def cannotOpen (utility name : String) (e : Fault) : String :=
  utility ++ ": cannot open '" ++ name ++ "' for reading: " ++ faultText e

/-- The beginning of a stream, or all but its end. -/
def headOf (e : Extent) (s : ByteStream) : ByteStream :=
  if e.sign = some '-' then
    if s.isEndless then s
    else if e.bytes then .ofList (s.start.take (s.start.length - e.count))
    else
      let lines := linesWithEnds s.start
      .ofList (lines.take (lines.length - e.count)).flatten
  else if e.bytes then .ofList (s.take e.count)
  else s.takeLines e.count

/-- The end of a stream, or all from a place on. -/
def tailOf (e : Extent) (s : ByteStream) : ByteStream :=
  if s.isEndless then s
  else
    let rest {α : Type} (xs : List α) : List α :=
      if e.sign = some '+' then xs.drop (e.count - 1) else xs.drop (xs.length - e.count)
    if e.bytes then .ofList (rest s.start) else .ofList (rest (linesWithEnds s.start)).flatten

/-- A utility that answers a part of each of its operands. -/
def partOf (name : String) (part : Extent → ByteStream → ByteStream) : Utility :=
  fun args input => do
    match readExtent ⟨false, 10, none⟩ args with
    | none => return ⟨.empty, [name ++ ": invalid option"], 1⟩
    | some (e, files) =>
      let (streams, complaints) := operands (cannotOpen name) files input (← get)
      let parts := streams.map fun (f, s) => (f, part e s)
      return (Reply.ofStream (joinStreams parts)).complaining complaints

/-- **Copies the beginning of its operands.** -/
def head : Utility := partOf "head" headOf

/-- **Copies the end of its operands.** -/
def tail : Utility := partOf "tail" tailOf

/-- The characters from one to another. -/
def charsBetween (a b : Char) : List Char :=
  (List.range (b.toNat + 1 - a.toNat)).map fun i => Char.ofNat (a.toNat + i)

/-- The classes of characters that have a name. -/
def charClass (name : List Char) : List Char :=
  let upper := charsBetween 'A' 'Z'
  let lower := charsBetween 'a' 'z'
  let digits := charsBetween '0' '9'
  match String.ofList name with
  | "upper" => upper
  | "lower" => lower
  | "digit" => digits
  | "alpha" => upper ++ lower
  | "alnum" => digits ++ upper ++ lower
  | "space" => charsBetween '\t' '\r' ++ [' ']
  | "blank" => ['\t', ' ']
  | "punct" => (charsBetween '!' '~').filter fun c => !c.isAlphanum
  | _ => []

/-- The first character that a set writes, and the rest. -/
def setChar : List Char → Option (Char × List Char)
  | '\\' :: cs =>
    match escapeAt cs with
    | (['\\', c], rest) => some (c, rest)
    | (c :: _, rest) => some (c, rest)
    | ([], rest) => some ('\\', rest)
  | c :: cs => some (c, cs)
  | [] => none

/-- The characters that a set writes: single ones, ranges and classes. -/
def setWithin : Nat → List Char → List Char
  | 0, _ => []
  | fuel + 1, '[' :: ':' :: cs =>
    charClass (cs.takeWhile (· ≠ ':')) ++ setWithin fuel ((cs.dropWhile (· ≠ ':')).drop 2)
  | fuel + 1, cs =>
    match setChar cs with
    | none => []
    | some (a, '-' :: rest) =>
      match setChar rest with
      | some (b, rest) => charsBetween a b ++ setWithin fuel rest
      | none => [a, '-']
    | some (a, rest) => a :: setWithin fuel rest

/-- The characters that a set writes. -/
def charSet (cs : List Char) : List Char := setWithin (cs.length + 1) cs

/-- The list with its last element repeated up to a length. -/
def stretched (n : Nat) (cs : List Char) : List Char :=
  match cs.getLast? with
  | some c => cs ++ List.replicate (n - cs.length) c
  | none => []

/-- One character for each run of a character of a set. -/
def squeezed (set : List Char) : List Char → List Char
  | a :: b :: rest =>
    if a = b && set.contains a then squeezed set (b :: rest) else a :: squeezed set (b :: rest)
  | cs => cs

/-- **Replaces or deletes the characters of a set.** -/
def tr : Utility := fun args input => do
  let (options, sets) := letters args
  let negated := options.contains 'c' || options.contains 'C'
  let squeeze (set : List Char) (s : ByteStream) : ByteStream :=
    if options.contains 's' then ⟨squeezed set s.start, s.cycle⟩ else s
  match sets with
  | [a] =>
    let a := charSet a
    if options.contains 'd' then
      return .ofStream (input.flatMap fun c => if a.contains c != negated then [] else [c])
    else return .ofStream (squeeze a input)
  | [a, b] =>
    let a := charSet a
    let b := stretched a.length (charSet b)
    let replace (c : Char) : Char :=
      if negated then if a.contains c then c else b.getLast?.getD c
      else ((a.zip b).lookup c).getD c
    return .ofStream (squeeze b (input.flatMap fun c => [replace c]))
  | _ => return ⟨.empty, ["tr: missing operand"], 1⟩

/-- The number of words in a list of characters. -/
def wordCount (cs : List Char) : Nat :=
  (cs.foldl (fun (n, inside) c =>
    let blank := c = ' ' || ('\t' ≤ c && c ≤ '\r')
    (if !blank && !inside then n + 1 else n, !blank)) (0, false)).1

/-- **Counts lines, words and bytes.** -/
def wc : Utility := fun args input => do
  let (options, files) := letters args
  let (streams, complaints) := operands (complaintAbout "wc") files input (← get)
  let wanted (c : Char) : Bool := options.isEmpty || options.contains c
  let counts (cs : List Char) : List Nat :=
    (if wanted 'l' then [cs.count '\n'] else []) ++ (if wanted 'w' then [wordCount cs] else []) ++
      (if wanted 'c' then [cs.length] else [])
  let width := if options.length = 1 && files.length ≤ 1 then 1 else 7
  let row (f : Field) (ns : List Nat) : List Char :=
    let cells := ns.map fun n =>
      let digits := (toString n).toList
      List.replicate (width - digits.length) ' ' ++ digits
    joinFields (cells ++ if files.isEmpty then [] else [f]) ++ ['\n']
  match streams.find? (·.2.isEndless) with
  | some (_, s) => return .ofStream s
  | none =>
    return (Reply.ofList (streams.flatMap fun (f, s) => row f (counts s.start))).complaining
      complaints

/-- A basic pattern as an extended one: the signs that only mean something behind a backslash
change places with those that stand for themselves. -/
def extendedPattern : List Char → List Char
  | '\\' :: c :: cs =>
    if ['(', ')', '+', '?', '|', '\x7b', '\x7d'].contains c then c :: extendedPattern cs
    else '\\' :: c :: extendedPattern cs
  | c :: cs =>
    if ['(', ')', '+', '?', '|', '\x7b', '\x7d'].contains c then '\\' :: c :: extendedPattern cs
    else c :: extendedPattern cs
  | [] => []

/-- Whether a line matches, by the options of a search and its pattern. -/
def lineTest? (options : List Char) (pattern : Field) : Option (String → Bool) :=
  let whole (s : String) : String := if options.contains 'x' then "^(?:" ++ s ++ ")$" else s
  let folded (s : String) : String := if options.contains 'i' then "(?i)" ++ s else s
  let text := Text.ofOctets pattern
  if options.contains 'F' && !options.contains 'i' then
    some fun line => if options.contains 'x' then line == text else Text.contains line text
  else
    let source := if options.contains 'E' then text
      else String.ofList (extendedPattern text.toList)
    match Pattern.parse (folded (whole source)) with
    | .ok p => some p.occursIn
    | .error _ => none

/-- **Searches its operands for the lines that match a pattern.** -/
def grep : Utility := fun args input => do
  let (options, words) := letters args
  match words with
  | [] => return ⟨.empty, ["Usage: grep [OPTION]... PATTERNS [FILE]..."], 2⟩
  | pattern :: files =>
    match lineTest? options pattern with
    | none => return ⟨.empty, ["grep: Invalid regular expression"], 2⟩
    | some test =>
      let (streams, complaints) := operands (complaintAbout "grep") files input (← get)
      let label (f : Field) : List Char :=
        if 1 < files.length && !options.contains 'h' then f ++ [':'] else []
      let hits (s : ByteStream) : List (Nat × List Char) :=
        let lines := (linesWithEnds s.start).map fun l => l.filter (· ≠ '\n')
        (lines.zipIdx 1).filterMap fun (l, i) =>
          if test (Text.ofOctets l) != options.contains 'v' then some (i, l) else none
      let found := streams.map fun (f, s) => (f, hits s)
      let output := found.flatMap fun (f, lines) =>
        if options.contains 'q' then []
        else if options.contains 'c' then label f ++ (toString lines.length).toList ++ ['\n']
        else if options.contains 'l' then if lines.isEmpty then [] else f ++ ['\n']
        else lines.flatMap fun (i, l) =>
          label f ++ (if options.contains 'n' then (toString i).toList ++ [':'] else []) ++ l ++
            ['\n']
      let status := if found.any fun (_, lines) => !lines.isEmpty then 0 else 1
      let reported := if options.contains 's' then [] else complaints
      return ⟨.ofList output, reported, if complaints.isEmpty then status else 2⟩

/-- Whether one line stands before another: by their bytes. -/
def lineBefore (a b : List Char) : Bool := compare (String.ofList a) (String.ofList b) != .gt

/-- **Sorts the lines of its operands.** -/
def sort : Utility := fun args input => do
  let (options, files) := letters args
  let (streams, complaints) := operands (complaintAbout "sort") files input (← get)
  let lines := (linesWithEnds (joinStreams streams).start).map fun l => l.filter (· ≠ '\n')
  let number (l : List Char) : Int :=
    let l := l.dropWhile (· = ' ')
    let digits := (if l.head? = some '-' then l.drop 1 else l).takeWhile Char.isDigit
    let n : Int := (natOf? digits).getD 0
    if l.head? = some '-' then -n else n
  let before (a b : List Char) : Bool :=
    if options.contains 'n' && number a ≠ number b then number a < number b else lineBefore a b
  let sorted := lines.mergeSort before
  let sorted := if options.contains 'r' then sorted.reverse else sorted
  let sorted := if options.contains 'u' then sorted.eraseDups else sorted
  return (Reply.ofList (sorted.flatMap (· ++ ['\n']))).complaining complaints

/-- **Writes the numbers from one to another.** -/
def seq : Utility := fun args _ => do
  let numbers (first step final : Int) : List Int :=
    if step = 0 then []
    else
      let count := if 0 < step then (final - first) / step + 1 else (first - final) / (-step) + 1
      (List.range count.toNat).map fun (i : Nat) => first + step * (i : Int)
  let write (ns : List Int) : Reply := .ofList (ns.flatMap fun n => (toString n).toList ++ ['\n'])
  match args.map intOf? with
  | [some final] => return write (numbers 1 1 final)
  | [some first, some final] => return write (numbers first 1 final)
  | [some first, some step, some final] => return write (numbers first step final)
  | _ => return ⟨.empty, ["seq: missing operand"], 1⟩

/-- **Writes a line without end.** -/
def yes : Utility := fun args _ =>
  return .ofStream (.repeating (joinFields (if args.isEmpty then [['y']] else args) ++ ['\n']))

end RtlFlow.Shell
