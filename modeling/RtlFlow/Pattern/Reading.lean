import RtlFlow.Pattern.Automaton
import RtlFlow.Pattern.Property
import RtlFlow.Pattern.Error
import RtlFlow.Json.Reading

/-! # Reading patterns

`Pattern.parse` reads the usual notation of regular expressions: alternatives, groups with names
and flags, greedy and lazy repetition, bracketed sets with nested sets and set operations, escapes
for characters, for sets and for conditions on the position. Looking ahead or behind and
references to groups are refused. A set of characters ignores case where the flag `i` is on, and
where the flag `u` is switched off a set may hold ASCII characters only. A pattern whose notation
nests too deep or whose automata take too much is refused as well. -/

namespace RtlFlow.Pattern

open RtlFlow.Text.Unicode

/-- **The flags** in force at a place of a pattern. -/
structure Flags where
  /-- Letters match in either case. -/
  ignoreCase : Bool := false
  /-- The line conditions hold at inner lines too. -/
  multiLine : Bool := false
  /-- The dot matches line ends too. -/
  dotAll : Bool := false
  /-- Greedy and lazy repetition have changed places. -/
  swapGreed : Bool := false
  /-- Sets may hold characters beyond ASCII. -/
  unicode : Bool := true
  /-- Lines may end in a carriage return. -/
  crlf : Bool := false
  /-- Blanks and comments in the pattern are passed over. -/
  extended : Bool := false
  deriving DecidableEq, Repr, Inhabited

/-- Drops blanks and comments. -/
def dropFiller : Bool → List Char → List Char
  | _, [] => []
  | true, c :: cs => dropFiller (c ≠ '\n') cs
  | false, c :: cs =>
    if Text.isBlank c then dropFiller false cs
    else if c = '#' then dropFiller true cs
    else c :: cs

/-- Drops blanks and comments where the flags ask for it. -/
def skip (f : Flags) (cs : List Char) : List Char :=
  if f.extended then dropFiller false cs else cs

/-- The characters from the start on that satisfy a test, and the rest; blanks and comments behind
each are dropped where the flags ask for it. `fuel` bounds the number of characters. -/
def takeSkipping (f : Flags) (test : Char → Bool) : Nat → List Char → List Char × List Char
  | 0, cs => ([], cs)
  | _ + 1, [] => ([], [])
  | fuel + 1, c :: cs =>
    if test c then
      let (taken, rest) := takeSkipping f test fuel (skip f cs)
      (c :: taken, rest)
    else ([], c :: cs)

/-! ### Sets -/

/-- The set with the case variants of its characters, where the flags ask for them. -/
def fold (f : Flags) (s : CharSet) : CharSet :=
  if f.ignoreCase then if f.unicode then folded s else (folded s).inter .ascii else s

/-- A named set or its complement; the case variants of its characters are added before the
complement is taken. -/
def foldAndNegate (f : Flags) (negated : Bool) (s : CharSet) : Except PatternError CharSet :=
  if !negated then .ok (fold f s)
  else if f.unicode then .ok (fold f s).compl
  else .error .invalidText

/-- The set of one character inside brackets. -/
def charInSet (f : Flags) (c : Char) : Except PatternError CharSet :=
  if !f.unicode && 0x7F < c.toNat then .error .invalidText else .ok (.one c)

/-- The set of an escape such as `\d`; a capital letter writes the complement. -/
def shorthand (f : Flags) (c : Char) : Except PatternError CharSet :=
  let base :=
    match c.toLower with
    | 'd' => digitChars
    | 's' => blankChars
    | _ => wordChars
  let base := if f.unicode then base else base.inter .ascii
  if !c.isUpper then .ok base
  else if f.unicode then .ok base.compl
  else .error .invalidText

/-! ### Escapes -/

/-- **A character as it is written**: `isByte` tells that two digits after `\x` write it, which
would be a single byte where the flag `u` is switched off. -/
structure Written where
  /-- The character. -/
  char : Char
  /-- Whether it is written as a byte. -/
  isByte : Bool

/-- Hexadecimal digits up to a closing brace. -/
def bracedDigits (f : Flags) (cs : List Char) : Except PatternError (List Char × List Char) :=
  let (ds, rest) := takeSkipping f (fun c => (Json.hexDigit? c).isSome) cs.length cs
  match rest with
  | [] => .error .escape
  | '\x7d' :: rest => .ok (ds, rest)
  | _ => .error .codePoint

/-- A given number of hexadecimal digits. -/
def fixedDigits (f : Flags) : Nat → List Char → Except PatternError (List Char × List Char)
  | 0, cs => .ok ([], cs)
  | _ + 1, [] => .error .escape
  | n + 1, c :: cs =>
    if (Json.hexDigit? c).isNone then .error .codePoint
    else do
      let (ds, rest) ← fixedDigits f n (if n = 0 then cs else skip f cs)
      return (c :: ds, rest)

/-- The character with a code point given in hexadecimal digits. -/
def charOfDigits (ds : List Char) : Except PatternError Char :=
  let n := ds.foldl (fun n d => 16 * n + (Json.hexDigit? d).getD 0) 0
  if ds.isEmpty then .error .codePoint
  else if n < 0xD800 ∨ (0xDFFF < n ∧ n ≤ 0x10FFFF) then .ok (Char.ofNat n)
  else .error .codePoint

/-- A numeric escape from behind its letter. -/
def readHex (f : Flags) (kind : Char) (cs : List Char) :
    Except PatternError (Written × List Char) := do
  match skip f cs with
  | '\x7b' :: rest =>
    let (ds, rest) ← bracedDigits f (skip f rest)
    return (⟨← charOfDigits ds, false⟩, rest)
  | cs =>
    let (ds, rest) ← fixedDigits f (if kind = 'x' then 2 else if kind = 'u' then 4 else 8) cs
    return (⟨← charOfDigits ds, kind = 'x'⟩, rest)

/-- What stands before and behind the first place at which a sign stands. -/
def cutAt? (sign : List Char) : List Char → Option (List Char × List Char)
  | [] => none
  | c :: cs =>
    if sign.isPrefixOf (c :: cs) then some ([], (c :: cs).drop sign.length)
    else (cutAt? sign cs).map fun (before, behind) => (c :: before, behind)

/-- **The set that the text between the braces of a property escape means**: a name, or a name and
a value. The sign for a value that differs says no more than the sign for the value. -/
def propertySet (body : List Char) : Except PatternError CharSet :=
  let found : Option CharSet :=
    match [['!', '='], [':'], ['=']].findSome? (cutAt? · body) with
    | some (name, value) => CharSet.ofNamedValue? (String.ofList name) (String.ofList value)
    | none => CharSet.ofName? (String.ofList body)
  match found with
  | some s => .ok s
  | none => .error .property

/-- A property escape from behind its letter; `negated` writes the complement. -/
def readProperty (f : Flags) (negated : Bool) (cs : List Char) :
    Except PatternError (CharSet × List Char) := do
  if !f.unicode then .error .property
  let (s, rest) ←
    match skip f cs with
    | [] => .error .escape
    | '\x7b' :: rest =>
      let (body, rest) := takeSkipping f (· ≠ '\x7d') rest.length (skip f rest)
      match rest with
      | [] => .error .escape
      | _ :: rest => pure (← propertySet body, rest)
    | c :: rest => if c = '\\' then .error .property else pure (← propertySet [c], rest)
  return (← foldAndNegate f negated s, rest)

/-- **What an escape writes.** -/
inductive Escape where
  /-- A character. -/
  | char (c : Written)
  /-- A set of characters. -/
  | set (s : CharSet)
  /-- A condition on the position. -/
  | look (l : Look)

/-- The signs with a meaning of their own. -/
def metaChars : List Char :=
  ['\\', '.', '+', '*', '?', '(', ')', '|', '[', ']', '\x7b', '\x7d', '^', '$', '#', '&', '-', '~']

/-- Whether a backslash before a character writes the character itself. -/
def isEscapable (c : Char) : Bool :=
  metaChars.contains c || (c.toNat < 128 && !c.isAlphanum && c ≠ '<' && c ≠ '>')

/-- The condition that a name between braces behind `\b` means. -/
def boundaryNamed? (ascii : Bool) : String → Option Look
  | "start" => some (.wordStart ascii)
  | "end" => some (.wordEnd ascii)
  | "start-half" => some (.noWordBefore ascii)
  | "end-half" => some (.noWordBehind ascii)
  | _ => none

/-- The escape `\b` from behind its letter: a name between braces may follow. -/
def readBoundary (f : Flags) (cs : List Char) : Except PatternError (Escape × List Char) :=
  let plain : Except PatternError (Escape × List Char) := .ok (.look (.boundary !f.unicode), cs)
  match cs with
  | '\x7b' :: rest =>
    match skip f rest with
    | [] => .error .escape
    | body =>
      match takeSkipping f (fun c => c.isAlpha || c = '-') body.length body with
      | ([], _) => plain
      | (name, '\x7d' :: rest) =>
        match boundaryNamed? (!f.unicode) (String.ofList name) with
        | some l => .ok (.look l, rest)
        | none => .error .escape
      | _ => .error .escape
  | _ => plain

/-- **An escape** from behind its backslash. -/
def readEscape (f : Flags) : List Char → Except PatternError (Escape × List Char)
  | [] => .error .escape
  | c :: cs =>
    let one (c : Char) : Except PatternError (Escape × List Char) := .ok (.char ⟨c, false⟩, cs)
    if c.isDigit then .error .backReference
    else if c = 'x' ∨ c = 'u' ∨ c = 'U' then do
      let (d, rest) ← readHex f c cs
      return (.char d, rest)
    else if c = 'p' ∨ c = 'P' then do
      let (s, rest) ← readProperty f (c = 'P') cs
      return (.set s, rest)
    else if ['d', 'D', 's', 'S', 'w', 'W'].contains c then do
      return (.set (← shorthand f c), cs)
    else if isEscapable c then one c
    else
      match c with
      | 'a' => one '\x07'
      | 'f' => one '\x0c'
      | 't' => one '\t'
      | 'n' => one '\n'
      | 'r' => one '\r'
      | 'v' => one '\x0b'
      | 'A' => .ok (.look .textStart, cs)
      | 'z' => .ok (.look .textEnd, cs)
      | 'b' => readBoundary f cs
      | 'B' => .ok (.look (.noBoundary !f.unicode), cs)
      | '<' => .ok (.look (.wordStart !f.unicode), cs)
      | '>' => .ok (.look (.wordEnd !f.unicode), cs)
      | _ => .error .escape

/-! ### Bracketed sets -/

/-- An operation on two sets inside brackets. -/
inductive SetOp where
  | inter
  | diff
  | symmDiff

/-- The result of an operation; with case ignored both sets are folded first. -/
def SetOp.combine (f : Flags) (a b : CharSet) : SetOp → CharSet
  | .inter => (fold f a).inter (fold f b)
  | .diff => (fold f a).diff (fold f b)
  | .symmDiff => (fold f a).symmDiff (fold f b)

/-- **A set with the depth of its notation**: how many brackets, operations and enumerations
stand inside each other. -/
structure DeepSet where
  /-- The set. -/
  set : CharSet
  /-- The depth. -/
  depth : Nat

/-- **The set read so far**: the operation that waits for its second set, and the items since. -/
structure OpenSet where
  /-- The set before the last operation, with the operation. -/
  pending : Option (DeepSet × SetOp)
  /-- The items since the last operation. -/
  items : List DeepSet

/-- The items of a set as one. Two items or more are an enumeration. -/
def enumeration (items : List DeepSet) : DeepSet where
  set := .unions (items.map (·.set))
  depth :=
    (items.foldl (fun n s => max n s.depth) 0) + (if 2 ≤ items.length then 1 else 0)

/-- The set that an open set amounts to. -/
def OpenSet.value (f : Flags) (s : OpenSet) : DeepSet :=
  let items := enumeration s.items
  match s.pending with
  | some (a, op) => ⟨op.combine f a.set items.set, max a.depth items.depth + 1⟩
  | none => items

/-- The open set with one more item. -/
def OpenSet.add (s : OpenSet) (item : DeepSet) : OpenSet := { s with items := item :: s.items }

/-- The open set with one more item that is no set in brackets. -/
def OpenSet.addFlat (s : OpenSet) (item : CharSet) : OpenSet := s.add ⟨item, 0⟩

/-- The open set behind an operation. -/
def OpenSet.operate (f : Flags) (s : OpenSet) (op : SetOp) : OpenSet :=
  ⟨some (s.value f, op), []⟩

/-- The name of an ASCII set between colons, from behind its bracket, and whether it is
negated. -/
def readAsciiName? (cs : List Char) : Option ((CharSet × Bool) × List Char) :=
  match cs with
  | ':' :: cs =>
    let (negated, cs) := match cs with | '^' :: cs => (true, cs) | cs => (false, cs)
    let name := cs.takeWhile (· ≠ ':')
    match cs.drop name.length with
    | ':' :: ']' :: rest =>
      (CharSet.ofAsciiName? (String.ofList name)).map fun s => ((s, negated), rest)
    | _ => none
  | _ => none

/-- One item of a bracketed set: a character or a set. -/
def readSetItem (f : Flags) : List Char → Except PatternError ((Char ⊕ CharSet) × List Char)
  | [] => .error .setUnclosed
  | '\\' :: cs => do
    match ← readEscape f cs with
    | (.char c, rest) => return (.inl c.char, rest)
    | (.set s, rest) => return (.inr s, rest)
    | (.look _, _) => .error .setEscape
  | c :: cs => .ok (.inl c, cs)

/-- The set that an item writes. -/
def itemSet (f : Flags) : Char ⊕ CharSet → Except PatternError CharSet
  | .inl c => charInSet f c
  | .inr s => .ok s

/-- The character that comes next but for blanks. A sign that opens a comment is passed over
too, though what it comments is not. -/
def peekSkipping (f : Flags) (cs : List Char) : Option Char :=
  if f.extended then
    match cs.dropWhile Text.isBlank with
    | '#' :: rest => (rest.dropWhile Text.isBlank).head?
    | rest => rest.head?
  else cs.head?

/-- An item or a range of two characters. A hyphen before the closing bracket or another hyphen
makes no range. -/
def readSetRange (f : Flags) (cs : List Char) : Except PatternError (CharSet × List Char) := do
  let (item, rest) ← readSetItem f cs
  match skip f rest with
  | [] => .error .setUnclosed
  | '-' :: after =>
    if peekSkipping f after = some ']' ∨ peekSkipping f after = some '-' then
      return (← itemSet f item, '-' :: after)
    else
      let (item', rest) ← readSetItem f (skip f after)
      match item, item' with
      | .inl a, .inl b =>
        if b < a then .error .setRange
        else
          let _ ← charInSet f a
          let _ ← charInSet f b
          return (.range a.toNat b.toNat, rest)
      | _, _ => .error .setRange
  | rest => return (← itemSet f item, rest)

/-- The hyphens at the start of a bracketed set, which stand for themselves. -/
def readLeadingHyphens (f : Flags) (s : OpenSet) : Nat → List Char →
    Except PatternError (OpenSet × List Char)
  | 0, _ => .error .setUnclosed
  | fuel + 1, cs =>
    match cs with
    | '-' :: rest => readLeadingHyphens f (s.addFlat (.one '-')) fuel (skip f rest)
    | [] => .error .setUnclosed
    | cs => .ok (s, cs)

/-- The start of a bracketed set from behind its bracket: whether it is negated, and the hyphens
or the closing bracket with which it may begin. -/
def readSetStart (f : Flags) (cs : List Char) :
    Except PatternError ((Bool × OpenSet) × List Char) := do
  let cs := skip f cs
  let (negated, cs) := match cs with | '^' :: rest => (true, skip f rest) | cs => (false, cs)
  let (s, cs') ← readLeadingHyphens f ⟨none, []⟩ (cs.length + 1) cs
  match cs' with
  | ']' :: rest =>
    if cs'.length = cs.length then
      match skip f rest with
      | [] => .error .setUnclosed
      | rest => return ((negated, s.addFlat (.one ']')), rest)
    else return ((negated, s), cs')
  | _ => return ((negated, s), cs')

/-- The greatest depth of notation. -/
def maxDepth : Nat := 250

mutual

/-- **A bracketed set** from behind its bracket; `room` is the number of brackets that may still
be opened inside each other. -/
def readSet (f : Flags) : Nat → Nat → List Char → Except PatternError (DeepSet × List Char)
  | 0, _, _ => .error .tooDeep
  | _ + 1, 0, _ => .error .tooDeep
  | fuel + 1, room + 1, cs => do
    let ((negated, s), cs) ← readSetStart f cs
    let (s, rest) ← readSetItems f fuel room s cs
    let value := s.value f
    return (⟨← foldAndNegate f negated value.set, value.depth + 1⟩, rest)

/-- The items of a bracketed set up to its closing bracket. -/
def readSetItems (f : Flags) : Nat → Nat → OpenSet → List Char →
    Except PatternError (OpenSet × List Char)
  | 0, _, _, _ => .error .tooDeep
  | fuel + 1, room, s, cs =>
    match skip f cs with
    | [] => .error .setUnclosed
    | ']' :: rest => .ok (s, rest)
    | '&' :: '&' :: rest => readSetItems f fuel room (s.operate f .inter) rest
    | '-' :: '-' :: rest => readSetItems f fuel room (s.operate f .diff) rest
    | '~' :: '~' :: rest => readSetItems f fuel room (s.operate f .symmDiff) rest
    | '[' :: rest =>
      match readAsciiName? rest with
      | some ((item, negated), rest) => do
        readSetItems f fuel room (s.addFlat (← foldAndNegate f negated item)) rest
      | none => do
        let (item, rest) ← readSet f fuel room rest
        readSetItems f fuel room (s.add item) rest
    | cs => do
      let (item, rest) ← readSetRange f cs
      readSetItems f fuel room (s.addFlat item) rest

end

/-! ### Repetition -/

/-- A decimal number with blanks around it; `none` when there is no digit. -/
def readCount (f : Flags) (cs : List Char) : Except PatternError (Option Nat × List Char) :=
  let cs := cs.dropWhile Text.isBlank
  let (ds, rest) := takeSkipping f Char.isDigit cs.length cs
  let rest := skip f (rest.dropWhile Text.isBlank)
  let n := Number.digitsValue ds
  if ds.isEmpty then .ok (none, rest)
  else if 4294967296 ≤ n then .error .repetitionCount
  else .ok (some n, rest)

/-- The bounds of a counted repetition, from behind its opening brace. -/
def readBounds (f : Flags) (cs : List Char) :
    Except PatternError ((Nat × Option Nat) × List Char) := do
  let (least, rest) ← readCount f (skip f cs)
  match rest with
  | ',' :: rest =>
    match skip f rest with
    | '\x7d' :: rest =>
      match least with
      | some n => return ((n, none), rest)
      | none => .error .repetitionCount
    | rest =>
      let (most, rest) ← readCount f rest
      match least, most, rest with
      | some n, some m, '\x7d' :: rest =>
        if m < n then .error .repetitionCount else return ((n, some m), rest)
      | _, _, _ => .error .repetitionCount
  | '\x7d' :: rest =>
    match least with
    | some n => return ((n, some n), rest)
    | none => .error .repetitionCount
  | _ => .error .repetitionCount

/-- Whether a sign for lazy repetition comes next, and the rest. -/
def readLazy : List Char → Bool × List Char
  | '?' :: cs => (true, cs)
  | cs => (false, cs)

/-! ### Flags and groups -/

/-- The flags with one of them set or cleared. -/
def Flags.set? (f : Flags) (letter : Char) (on : Bool) : Option Flags :=
  match letter with
  | 'i' => some { f with ignoreCase := on }
  | 'm' => some { f with multiLine := on }
  | 's' => some { f with dotAll := on }
  | 'U' => some { f with swapGreed := on }
  | 'u' => some { f with unicode := on }
  | 'R' => some { f with crlf := on }
  | 'x' => some { f with extended := on }
  | _ => none

/-- Reads flags up to a colon or a closing parenthesis; `seen` holds the signs read so far. -/
def readFlags (f : Flags) (seen : List Char) : List Char →
    Except PatternError ((Flags × Bool) × List Char)
  | [] => .error .groupUnclosed
  | c :: cs =>
    if c = ':' ∨ c = ')' then
      if seen.head? = some '-' then .error .flags
      else if c = ')' ∧ seen.isEmpty then .error .nothingToRepeat
      else .ok ((f, c = ':'), cs)
    else if seen.contains c then .error .flags
    else if c = '-' then readFlags f ('-' :: seen) cs
    else
      match f.set? c (!seen.contains '-') with
      | some f => readFlags f (c :: seen) cs
      | none => .error .flags

/-- Whether a character may stand in a group name. -/
def isNameChar (first : Bool) (c : Char) : Bool :=
  c = '_' || isAlphabetic c ||
    (!first && (c = '.' || c = '[' || c = ']' || isNumeric c))

/-- A group name up to its closing angle bracket. -/
def readName (names : List String) (cs : List Char) : Except PatternError (String × List Char) :=
  let name := cs.takeWhile (· ≠ '>')
  match name, cs.drop name.length with
  | c :: rest, _ :: after =>
    if isNameChar true c && rest.all (isNameChar false) then
      let s := String.ofList name
      if names.contains s then .error .groupName else .ok (s, after)
    else .error .groupName
  | _, _ => .error .groupName

/-- **How a group begins.** -/
inductive Opening where
  /-- A numbered group. -/
  | numbered
  /-- A group without a number, whose inside is read under flags. -/
  | plain (f : Flags)
  /-- No group: the flags of what follows are changed. -/
  | flags (f : Flags)

/-- The start of a group from behind its parenthesis, with the group names so far. -/
def readOpening (f : Flags) (names : List String) (cs : List Char) :
    Except PatternError ((Opening × List String) × List Char) := do
  match skip f cs with
  | '?' :: 'P' :: '<' :: rest =>
    let (name, rest) ← readName names rest
    return ((.numbered, name :: names), rest)
  | '?' :: '=' :: _ | '?' :: '!' :: _ | '?' :: '<' :: '=' :: _ | '?' :: '<' :: '!' :: _ =>
    .error .lookAround
  | '?' :: '<' :: rest =>
    let (name, rest) ← readName names rest
    return ((.numbered, name :: names), rest)
  | '?' :: rest =>
    let ((f', isGroup), rest) ← readFlags f [] rest
    return ((if isGroup then .plain f' else .flags f', names), rest)
  | rest => return ((.numbered, names), rest)

/-! ### Patterns -/

/-- **A pattern with the depth of its notation**: how many groups, repetitions, brackets,
sequences and choices stand inside each other. -/
structure Deep where
  /-- The pattern. -/
  pattern : Pattern
  /-- The depth. -/
  depth : Nat
  deriving Inhabited

/-- The greatest depth of some patterns. -/
def greatestDepth (ps : List Deep) : Nat := ps.foldl (fun n p => max n p.depth) 0

/-- The depth of a sequence or choice of some patterns; a single one is no deeper for it. -/
def depthTogether (ps : List Deep) : Nat :=
  greatestDepth ps + (if 2 ≤ ps.length then 1 else 0)

/-- **What stands in a sequence**: a pattern, or a change of the flags, which describes the empty
text and cannot be repeated. -/
inductive Item where
  /-- A pattern. -/
  | pattern (p : Deep)
  /-- A change of the flags. -/
  | flags

/-- The pattern of an item. -/
def Item.value : Item → Deep
  | .pattern p => p
  | .flags => ⟨.empty, 0⟩

/-- **Where reading a sequence stands**: the flags, the names of the groups, their number, and the
items read so far, last one first. -/
structure Branch where
  /-- The flags in force. -/
  flags : Flags
  /-- The names of the groups so far. -/
  names : List String
  /-- The number of the next group. -/
  nextGroup : Nat
  /-- The items. -/
  items : List Item

/-- The branch with one more item. -/
def Branch.push (b : Branch) (p : Deep) : Branch := { b with items := .pattern p :: b.items }

/-- The branch with one more item whose notation holds no other. -/
def Branch.pushFlat (b : Branch) (p : Pattern) : Branch := b.push ⟨p, 0⟩

/-- The branch with its last item repeated. -/
def Branch.repeatLast (b : Branch) (least : Nat) (most : Option Nat) (isLazy : Bool) :
    Except PatternError Branch :=
  match b.items with
  | .pattern p :: rest =>
    let again := p.pattern.repetition least most (isLazy == b.flags.swapGreed)
    .ok { b with items := .pattern ⟨again, p.depth + 1⟩ :: rest }
  | _ => .error .nothingToRepeat

/-- The pattern of a branch. -/
def Branch.value (b : Branch) : Deep :=
  let ps := b.items.reverse.map Item.value
  ⟨concat (ps.map (·.pattern)), depthTogether ps⟩

/-- The choice between some patterns, given last one first. -/
def choice (done : List Deep) : Deep :=
  match done with
  | [p] => p
  | ps => ⟨alternation (ps.reverse.map (·.pattern)), depthTogether ps⟩

/-- The set that the dot writes. -/
def dotSet (f : Flags) : Except PatternError CharSet :=
  if !f.unicode then .error .invalidText
  else if f.dotAll then .ok .all
  else if f.crlf then .ok (CharSet.compl ((CharSet.one '\n').union (.one '\r')))
  else .ok (CharSet.compl (.one '\n'))

/-- The condition at the start of a line. -/
def startLook (f : Flags) : Look :=
  if !f.multiLine then .textStart else if f.crlf then .crlfLineStart else .lineStart

/-- The condition at the end of a line. -/
def endLook (f : Flags) : Look :=
  if !f.multiLine then .textEnd else if f.crlf then .crlfLineEnd else .lineEnd

/-- **The pattern of a single character**, with its case variants where the flags ask for them. A
character beyond ASCII has none where the flag `u` is switched off, and a byte beyond ASCII is no
text. -/
def charPattern (f : Flags) (c : Written) : Except PatternError Pattern :=
  if !f.unicode && 0x7F < c.char.toNat then
    if c.isByte then .error .invalidText else .ok (.literal [c.char])
  else .ok (ofSet (fold f (.one c.char)))

mutual

/-- Reads alternatives up to the end or to a parenthesis that closes nothing here. The answer
holds the flags and names at the end. -/
def readAlternatives : Nat → Nat → Branch → List Deep → List Char →
    Except PatternError ((Deep × Branch) × List Char)
  | 0, _, _, _, _ => .error .tooDeep
  | fuel + 1, room, b, done, cs => do
    let (b, rest) ← readBranch fuel room b cs
    match rest with
    | '|' :: rest => readAlternatives fuel room { b with items := [] } (b.value :: done) rest
    | rest => return ((choice (b.value :: done), b), rest)

/-- Reads the items of a branch; `room` is the number of groups that may still be opened inside
each other. -/
def readBranch : Nat → Nat → Branch → List Char → Except PatternError (Branch × List Char)
  | 0, _, _, _ => .error .tooDeep
  | fuel + 1, room, b, cs => do
    let f := b.flags
    match skip f cs with
    | [] => return (b, [])
    | '|' :: rest => return (b, '|' :: rest)
    | ')' :: rest => return (b, ')' :: rest)
    | '(' :: rest =>
      let ((opening, names), rest) ← readOpening f b.names rest
      match opening with
      | .flags f => readBranch fuel room { b with flags := f, items := .flags :: b.items } rest
      | .plain f' =>
        if room = 0 then .error .tooDeep
        let ((p, inner), rest) ←
          readAlternatives fuel (room - 1) ⟨f', names, b.nextGroup, []⟩ [] rest
        match rest with
        | ')' :: rest =>
          let item : Item := .pattern ⟨p.pattern, p.depth + 1⟩
          readBranch fuel room ⟨f, inner.names, inner.nextGroup, item :: b.items⟩ rest
        | _ => .error .groupUnclosed
      | .numbered =>
        if room = 0 then .error .tooDeep
        let ((p, inner), rest) ←
          readAlternatives fuel (room - 1) ⟨f, names, b.nextGroup + 1, []⟩ [] rest
        match rest with
        | ')' :: rest =>
          let item : Item := .pattern ⟨.group b.nextGroup p.pattern, p.depth + 1⟩
          readBranch fuel room ⟨f, inner.names, inner.nextGroup, item :: b.items⟩ rest
        | _ => .error .groupUnclosed
    | '[' :: rest =>
      let (s, rest) ← readSet f fuel maxDepth rest
      readBranch fuel room (b.push ⟨ofSet s.set, s.depth⟩) rest
    | '?' :: rest =>
      let (isLazy, rest) := readLazy rest
      readBranch fuel room (← b.repeatLast 0 (some 1) isLazy) rest
    | '*' :: rest =>
      let (isLazy, rest) := readLazy rest
      readBranch fuel room (← b.repeatLast 0 none isLazy) rest
    | '+' :: rest =>
      let (isLazy, rest) := readLazy rest
      readBranch fuel room (← b.repeatLast 1 none isLazy) rest
    | '\x7b' :: rest =>
      match b.items with
      | .pattern _ :: _ =>
        let ((least, most), rest) ← readBounds f rest
        let (isLazy, rest) := readLazy (skip f rest)
        readBranch fuel room (← b.repeatLast least most isLazy) rest
      | _ => .error .nothingToRepeat
    | '.' :: rest => readBranch fuel room (b.pushFlat (ofSet (← dotSet f))) rest
    | '^' :: rest => readBranch fuel room (b.pushFlat (.look (startLook f))) rest
    | '$' :: rest => readBranch fuel room (b.pushFlat (.look (endLook f))) rest
    | '\\' :: rest =>
      match ← readEscape f rest with
      | (.char c, rest) => readBranch fuel room (b.pushFlat (← charPattern f c)) rest
      | (.set s, rest) => readBranch fuel room (b.pushFlat (ofSet s)) rest
      | (.look l, rest) => readBranch fuel room (b.pushFlat (.look l)) rest
    | c :: rest => readBranch fuel room (b.pushFlat (← charPattern f ⟨c, false⟩)) rest

end

/-- **The pattern that a text writes.** -/
def parse (s : String) : Except PatternError Pattern := do
  let cs := s.toList
  let ((p, _), rest) ← readAlternatives (2 * cs.length + 2) maxDepth ⟨{}, [], 1, []⟩ [] cs
  match rest with
  | [] =>
    if maxDepth < p.depth then .error .tooDeep
    else if p.pattern.fits then return p.pattern
    else .error .tooLarge
  | _ => .error .groupUnopened

end RtlFlow.Pattern
