import RtlFlow.Toml.Scalar

/-! # Reading TOML

A document is a list of lines: headers, which open a table, and names with values, which go into
the table that was opened last. Values may be lists and inline tables of values. `Toml.parse` reads
a document and answers its members. -/

namespace RtlFlow.Toml

/-- How many lists and inline tables may be nested, and one more than the names of a key. -/
def maxDepth : Nat := 79

/-- A character of a name without quotes. -/
def isBare (c : Char) : Bool := c.isAlphanum || c = '-' || c = '_'

/-- Reads one name of a key. -/
def readName (cs : List Char) : Except ReadError (String × List Char) :=
  match cs with
  | [] => .error .ended
  | c :: rest =>
    if c = '"' ∨ c = '\'' then readLine c (c = '"') [] (rest.length + 1) rest
    else if isBare c then .ok (String.ofList (cs.takeWhile isBare), cs.dropWhile isBare)
    else .error (.unexpected c)

/-- Reads the names of a key with points between them. -/
def readNames (done : List String) : Nat → List Char → Except ReadError (List String × List Char)
  | 0, _ => .error .depth
  | fuel + 1, cs => do
    let (name, rest) ← readName (skipSpaces cs)
    match skipSpaces rest with
    | '.' :: rest => readNames (name :: done) fuel rest
    | rest => return ((name :: done).reverse, rest)

/-- **Reads a key**: the names before the last one and the last. -/
def readKey (cs : List Char) : Except ReadError ((List String × String) × List Char) := do
  let (names, rest) ← readNames [] maxDepth cs
  return ((names.dropLast, names.getLastD ""), rest)

/-- The rest behind a comment, if there is one. -/
def skipComment (cs : List Char) : List Char :=
  match cs with
  | '#' :: rest => rest.dropWhile isPrintable
  | cs => cs

/-- The rest behind blanks, line ends and comments. -/
def skipVoid : Nat → List Char → List Char
  | 0, cs => cs
  | fuel + 1, cs =>
    match skipSpaces cs with
    | '#' :: rest =>
      match dropNewline? (skipComment ('#' :: rest)) with
      | some next => skipVoid fuel next
      | none => '#' :: rest
    | cs =>
      match dropNewline? cs with
      | some next => skipVoid fuel next
      | none => cs

/-- The rest behind blanks, line ends and comments, all of them. -/
def skipAllVoid (cs : List Char) : List Char := skipVoid (cs.length + 1) cs

/-- The rest behind a word. -/
def readWord (word : String) (v : Value) (cs : List Char) : Except ReadError (Value × List Char) :=
  let word := word.toList
  if word.isPrefixOf cs then .ok (v, cs.drop word.length)
  else match cs with | [] => .error .ended | c :: _ => .error (.unexpected c)

mutual

/-- Reads a value; `depth` is how deep lists and inline tables may still be nested. -/
def readValue : Nat → Nat → List Char → Except ReadError (Value × List Char)
  | 0, _, _ => .error .ended
  | fuel + 1, depth, cs =>
    match cs with
    | [] => .error .ended
    | c :: rest =>
      if c = '"' ∨ c = '\'' then do
        let (s, rest) ← readString c rest
        return (.text s, rest)
      else if c = '[' then
        if depth = 0 then .error .depth
        else do
          let (items, rest) ← readItems fuel (depth - 1) [] rest
          return (.array items, rest)
      else if c = '\x7b' then
        if depth = 0 then .error .depth
        else
          match skipSpaces rest with
          | '\x7d' :: rest => .ok (.table [], rest)
          | rest => do
            let (members, rest) ← readInline fuel (depth - 1) [] rest
            return (.table (membersToValues members), rest)
      else if c = 't' then readWord "true" (.bool true) cs
      else if c = 'f' then readWord "false" (.bool false) cs
      else if c = 'i' ∨ c = 'n' then readMagnitude false cs
      else if c.isDigit ∨ c = '+' ∨ c = '-' then
        if looksLikeDate cs then readDate cs else readNumber cs
      else .error (.unexpected c)

/-- Reads the items of a list up to its closing bracket. -/
def readItems : Nat → Nat → List Value → List Char → Except ReadError (List Value × List Char)
  | 0, _, _, _ => .error .ended
  | fuel + 1, depth, done, cs =>
    match skipAllVoid cs with
    | ']' :: rest => .ok (done.reverse, rest)
    | cs => do
      let (item, rest) ← readValue fuel depth cs
      match skipAllVoid rest with
      | ',' :: rest => readItems fuel depth (item :: done) rest
      | ']' :: rest => return ((item :: done).reverse, rest)
      | c :: _ => .error (.unexpected c)
      | [] => .error .ended

/-- Reads the members of an inline table up to its closing brace. -/
def readInline : Nat → Nat → Members → List Char → Except ReadError (Members × List Char)
  | 0, _, _, _ => .error .ended
  | fuel + 1, depth, members, cs => do
    let ((path, key), rest) ← readKey cs
    match rest with
    | '=' :: rest =>
      let (v, rest) ← readValue fuel depth (skipSpaces rest)
      let members ← members.insertDotted key v path
      match skipSpaces rest with
      | ',' :: rest => readInline fuel depth members rest
      | '\x7d' :: rest => return (members, rest)
      | c :: _ => .error (.unexpected c)
      | [] => .error .ended
    | c :: _ => .error (.unexpected c)
    | [] => .error .ended

end

/-- **A document that is being read**: its members, and the table that was opened last. -/
structure Draft where
  /-- The members. -/
  members : Members
  /-- The path of the table that was opened last. -/
  path : List String

/-- The rest behind the end of a line, before which a comment may stand. -/
def endLine (cs : List Char) : Except ReadError (List Char) :=
  match skipComment (skipSpaces cs) with
  | [] => .ok []
  | c :: rest =>
    match dropNewline? (c :: rest) with
    | some rest => .ok rest
    | none => .error (.unexpected c)

/-- Reads a header behind its first bracket. -/
def readHeader (d : Draft) (cs : List Char) : Except ReadError (Draft × List Char) := do
  let (repeated, cs) := match cs with | '[' :: rest => (true, rest) | cs => (false, cs)
  let ((path, key), rest) ← readKey cs
  let opened := if repeated then Members.openItem key else Members.openTable key
  let rest ←
    match repeated, rest with
    | true, ']' :: ']' :: rest => .ok rest
    | false, ']' :: rest => .ok rest
    | _, c :: _ => .error (.unexpected c)
    | _, [] => .error .ended
  return (⟨← Members.within opened path d.members, path ++ [key]⟩, ← endLine rest)

/-- Reads a name with its value. -/
def readMember (d : Draft) (cs : List Char) : Except ReadError (Draft × List Char) := do
  let ((path, key), rest) ← readKey cs
  match rest with
  | '=' :: rest =>
    let (v, rest) ← readValue (2 * rest.length + 2) maxDepth (skipSpaces rest)
    let rest ← endLine rest
    let members ← Members.within (Members.insertDotted key v path) d.path d.members
    return ({ d with members }, rest)
  | c :: _ => .error (.unexpected c)
  | [] => .error .ended

/-- Reads the lines of a document. -/
def readLines : Nat → Draft → List Char → Except ReadError Draft
  | 0, d, _ => .ok d
  | fuel + 1, d, cs =>
    match skipAllVoid cs with
    | [] => .ok d
    | '#' :: rest =>
      match skipComment ('#' :: rest) with
      | [] => .ok d
      | c :: _ => .error (.unexpected c)
    | '[' :: rest => do
      let (d, rest) ← readHeader d rest
      readLines fuel d rest
    | cs => do
      let (d, rest) ← readMember d cs
      readLines fuel d rest

/-- **The members of the document that a text writes.** A byte order mark at its start is passed
over. -/
def parse (s : String) : Except ReadError (List (String × Value)) := do
  let cs := match s.toList with | '\uFEFF' :: rest => rest | cs => cs
  let d ← readLines (cs.length + 1) ⟨[], []⟩ cs
  return membersToValues d.members

end RtlFlow.Toml
