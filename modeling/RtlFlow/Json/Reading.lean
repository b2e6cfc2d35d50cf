import RtlFlow.Json.Basic
import RtlFlow.Text.Utf8

/-! # Reading JSON

`Json.parse` reads one value and refuses text behind it. Strings may hold no control character
and no half of a surrogate pair, numbers no superfluous zero, and lists and objects may be nested
127 deep.

`Json.readBytes` reads the value that bytes write for somebody who takes only parts of it. What is
passed over need only have the form of JSON: strings may hold halves of surrogate pairs and bytes
that form no character, which makes them garbled, and nesting has no limit. -/

namespace RtlFlow.Json

/-- **Why a text is not JSON.** -/
inductive ReadError where
  /-- The text ends inside a value. -/
  | ended
  /-- A character stands where no value or sign may begin. -/
  | unexpected (c : Char)
  /-- A number breaks off or has a superfluous zero. -/
  | number
  /-- A backslash is followed by no known escape. -/
  | escape
  /-- An escape writes half of a surrogate pair. -/
  | surrogate
  /-- A control character stands in a string. -/
  | control
  /-- Text follows the value. -/
  | trailing
  /-- Lists and objects are nested too deep. -/
  | depth
  deriving DecidableEq, Repr

/-- The wording of an error. -/
def ReadError.message : ReadError → String
  | .ended => "EOF while parsing a value"
  | .unexpected c => "unexpected character '" ++ String.ofList [c] ++ "'"
  | .number => "invalid number"
  | .escape => "invalid escape"
  | .surrogate => "lone surrogate in hex escape"
  | .control => "control character found while parsing a string"
  | .trailing => "trailing characters"
  | .depth => "recursion limit exceeded"

/-- The greatest depth of nesting. -/
def maxDepth : Nat := 127

/-- The characters that may stand between the tokens. -/
def isSpace (c : Char) : Bool := c = ' ' || c = '\n' || c = '\t' || c = '\r'

/-- The text without the spaces at its start. -/
def skipSpaces (cs : List Char) : List Char := cs.dropWhile isSpace

/-- The value of a hexadecimal digit. -/
def hexDigit? (c : Char) : Option Nat :=
  if c.isDigit then some (c.toNat - 48)
  else if 'a' ≤ c && c ≤ 'f' then some (c.toNat - 87)
  else if 'A' ≤ c && c ≤ 'F' then some (c.toNat - 55)
  else none

/-- Four hexadecimal digits, and the rest. -/
def hex4? : List Char → Option (Nat × List Char)
  | a :: b :: c :: d :: cs =>
    match hexDigit? a, hexDigit? b, hexDigit? c, hexDigit? d with
    | some a, some b, some c, some d => some (((a * 16 + b) * 16 + c) * 16 + d, cs)
    | _, _, _, _ => none
  | _ => none

/-- The character that an escape of one letter writes. -/
def plainEscape? : Char → Option Char
  | '"' => some '"'
  | '\\' => some '\\'
  | '/' => some '/'
  | 'b' => some '\x08'
  | 'f' => some '\x0c'
  | 'n' => some '\n'
  | 'r' => some '\r'
  | 't' => some '\t'
  | _ => none

/-- The character that a numeric escape writes, none for half of a surrogate pair, and the rest; the
text begins behind the `u`. -/
def numericEscape (cs : List Char) : Except ReadError (Option Char × List Char) :=
  match hex4? cs with
  | none => .error .escape
  | some (n, rest) =>
    if 0xD800 ≤ n ∧ n ≤ 0xDBFF then
      match rest with
      | '\\' :: 'u' :: behind =>
        match hex4? behind with
        | some (m, behind) =>
          if 0xDC00 ≤ m ∧ m ≤ 0xDFFF then
            .ok (some (Char.ofNat (0x10000 + (n - 0xD800) * 1024 + (m - 0xDC00))), behind)
          else .ok (none, rest)
        | none => .error .escape
      | _ => .ok (none, rest)
    else if 0xDC00 ≤ n ∧ n ≤ 0xDFFF then .ok (none, rest)
    else .ok (some (Char.ofNat n), rest)

/-- Reads a string from behind its opening quote; a string that writes no text gives none. `done`
holds what has been read, last character first, unless that is no text already; `fuel` bounds the
number of characters. -/
def readText (done : Option (List Char)) :
    Nat → List Char → Except ReadError (Option String × List Char)
  | 0, _ => .error .ended
  | _ + 1, [] => .error .ended
  | fuel + 1, c :: cs =>
    if c = '"' then .ok (done.map fun done => String.ofList done.reverse, cs)
    else if c = '\\' then
      match cs with
      | [] => .error .ended
      | 'u' :: cs => do
        let (d, rest) ← numericEscape cs
        readText (done.bind fun done => d.map (· :: done)) fuel rest
      | e :: cs =>
        match plainEscape? e with
        | some d => readText (done.map (d :: ·)) fuel cs
        | none => .error .escape
    else if c.toNat < 32 then .error .control
    else readText (done.map (c :: ·)) fuel cs

/-- Reads the exponent of a number, where there is one. -/
def readExponent (cs : List Char) : Except ReadError (Option (Bool × List Char) × List Char) :=
  match cs with
  | c :: rest =>
    if c = 'e' ∨ c = 'E' then
      let (negative, rest) := Number.takeSign rest
      let ds := rest.takeWhile Char.isDigit
      if ds.isEmpty then .error .number
      else .ok (some (negative, ds), rest.dropWhile Char.isDigit)
    else .ok (none, cs)
  | [] => .ok (none, [])

/-- Reads a number from behind its sign. -/
def readNumber (negative : Bool) (cs : List Char) : Except ReadError (Numeral × List Char) :=
  let whole := cs.takeWhile Char.isDigit
  let rest := cs.dropWhile Char.isDigit
  if whole.isEmpty || (whole.head? = some '0' && whole.length > 1) then .error .number
  else do
    let (places, rest) ←
      match rest with
      | '.' :: rest =>
        let ds := rest.takeWhile Char.isDigit
        if ds.isEmpty then .error .number
        else .ok (some ds, rest.dropWhile Char.isDigit)
      | _ => .ok (none, rest)
    let (exponent, rest) ← readExponent rest
    return (⟨negative, whole, places, exponent⟩, rest)

/-- The rest of a text behind a word. -/
def readWord (word : List Char) (cs : List Char) : Except ReadError (List Char) :=
  if word.isPrefixOf cs then .ok (cs.drop word.length)
  else match cs with | [] => .error .ended | c :: _ => .error (.unexpected c)

mutual

/-- Reads a value. -/
def readValue : Nat → List Char → Except ReadError (Json × List Char)
  | 0, _ => .error .ended
  | fuel + 1, cs =>
    match skipSpaces cs with
    | [] => .error .ended
    | c :: rest =>
      if c = '"' then do
        let (s, rest) ← readText (some []) (rest.length + 1) rest
        return (s.elim .garbled .text, rest)
      else if c = '[' then
        match skipSpaces rest with
        | ']' :: rest => .ok (.list [], rest)
        | rest => do
          let (items, rest) ← readItems fuel [] rest
          return (.list items, rest)
      else if c = '\x7b' then
        match skipSpaces rest with
        | '\x7d' :: rest => .ok (.object [], rest)
        | rest => do
          let (members, rest) ← readMembers fuel (some []) rest
          return (members.elim .garbled .object, rest)
      else if c = '-' then do
        let (n, rest) ← readNumber true rest
        return (.number n, rest)
      else if c.isDigit then do
        let (n, rest) ← readNumber false (c :: rest)
        return (.number n, rest)
      else if c = 't' then do
        return (.bool true, ← readWord ['r', 'u', 'e'] rest)
      else if c = 'f' then do
        return (.bool false, ← readWord ['a', 'l', 's', 'e'] rest)
      else if c = 'n' then do
        return (.null, ← readWord ['u', 'l', 'l'] rest)
      else .error (.unexpected c)

/-- Reads the items of a list up to its closing bracket. -/
def readItems : Nat → List Json → List Char → Except ReadError (List Json × List Char)
  | 0, _, _ => .error .ended
  | fuel + 1, done, cs => do
    let (item, rest) ← readValue fuel cs
    match skipSpaces rest with
    | ',' :: rest => readItems fuel (item :: done) rest
    | ']' :: rest => return ((item :: done).reverse, rest)
    | c :: _ => .error (.unexpected c)
    | [] => .error .ended

/-- Reads the members of an object up to its closing brace; a name that writes no text gives
none. -/
def readMembers : Nat → Option (List (String × Json)) → List Char →
    Except ReadError (Option (List (String × Json)) × List Char)
  | 0, _, _ => .error .ended
  | fuel + 1, done, cs =>
    match skipSpaces cs with
    | '"' :: rest => do
      let (name, rest) ← readText (some []) (rest.length + 1) rest
      match skipSpaces rest with
      | ':' :: rest =>
        let (value, rest) ← readValue fuel rest
        let done := done.bind fun done => name.map fun name => (name, value) :: done
        match skipSpaces rest with
        | ',' :: rest => readMembers fuel done rest
        | '\x7d' :: rest => return (done.map List.reverse, rest)
        | c :: _ => .error (.unexpected c)
        | [] => .error .ended
      | c :: _ => .error (.unexpected c)
      | [] => .error .ended
    | c :: _ => .error (.unexpected c)
    | [] => .error .ended

end

/-- **The value that characters write**, in which there may be garbled ones and any depth. -/
def readChars (cs : List Char) : Except ReadError Json := do
  let (value, rest) ← readValue (2 * cs.length + 2) cs
  match skipSpaces rest with
  | [] => return value
  | _ => .error .trailing

/-- The characters of a document in which a stretch of bytes forms no character. Halves of
surrogate pairs are written in its place: in a string they garble it as the bytes do, and elsewhere
neither may stand. Behind a backslash, where no escape may begin with such bytes, stands another
character that begins none. -/
def garble (escaped : Bool) : List (Option Char) → List Char
  | [] => []
  | some c :: rest => c :: garble (c = '\\' && !escaped) rest
  | none :: rest =>
    (if escaped then ['-'] else ['\\', 'u', 'd', 'c', '0', '0', '\\', 'u', 'd', 'c', '0', '0']) ++
      garble false rest

/-- **The value that bytes write**, in which there may be garbled ones and any depth. -/
def readBytes (bytes : List UInt8) : Except ReadError Json :=
  match Text.decodeExact? bytes with
  | some s => readChars s.toList
  | none => readChars (garble false (Text.decodeChars bytes))

mutual

/-- Why a value cannot be used as a whole: it is garbled, or lists and objects are nested deeper
in it than the given number. -/
def fault? (depth : Nat) : Json → Option ReadError
  | .garbled => some .surrogate
  | .list items => if depth = 0 then some .depth else faultInItems? (depth - 1) items
  | .object members => if depth = 0 then some .depth else faultInMembers? (depth - 1) members
  | _ => none

/-- Why one of several values cannot be used. -/
def faultInItems? (depth : Nat) : List Json → Option ReadError
  | [] => none
  | v :: rest => (fault? depth v).orElse fun _ => faultInItems? depth rest

/-- Why one of several members cannot be used. -/
def faultInMembers? (depth : Nat) : List (String × Json) → Option ReadError
  | [] => none
  | (_, v) :: rest => (fault? depth v).orElse fun _ => faultInMembers? depth rest

end

/-- **The value that a text writes**, every part of which can be used. -/
def parse (s : String) : Except ReadError Json := do
  let value ← readChars s.toList
  match fault? maxDepth value with
  | some e => .error e
  | none => return value

end RtlFlow.Json
