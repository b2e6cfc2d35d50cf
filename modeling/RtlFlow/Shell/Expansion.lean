import RtlFlow.Shell.Arithmetic
import RtlFlow.Shell.Machine
import RtlFlow.Shell.Token
import RtlFlow.Text.Blank

/-! # Expansion of words

What the words of a command stand for when it runs. A value that is not quoted is cut at blanks, so
a word may become no field, one field or several. -/

namespace RtlFlow.Shell

/-- The working directory as a value. -/
def workingDirField (t : FileTree) : Field := Text.octets ("/" ++ "/".intercalate t.workingDir)

/-- Fields with blanks between them, as one. -/
def spaced (fs : List Field) : Field := (fs.intersperse [' ']).flatten

/-- A number as a value. -/
def numberField (n : Int) : Field := (toString n).toList

/-- **The value of a variable or a parameter.** -/
def valueOf (m : Machine) (name : String) : Option Field :=
  let f := m.frame
  match name with
  | "?" => some (numberField f.status)
  | "$" => some (numberField f.pid)
  | "#" => some (numberField f.args.length)
  | "@" | "*" => some (spaced f.args)
  | "!" => if f.lastJob = 0 then none else some (numberField f.lastJob)
  | "0" => some f.name
  | "PWD" => some (workingDirField m.files)
  | "LINENO" => some (numberField f.line)
  | _ =>
    match natOf? name.toList with
    | some n => f.args[n - 1]?
    | none => f.value? name

/-- Fields under construction: the finished ones, last one first, and the open one. -/
structure Fields where
  /-- The finished fields, last one first. -/
  done : List Field
  /-- The field that further pieces go to. -/
  current : Option Field

namespace Fields

/-- No field yet. -/
def empty : Fields := ⟨[], none⟩

/-- Puts a value behind the open field, or opens one with it. -/
def add (s : Fields) (v : Field) : Fields := { s with current := some (s.current.getD [] ++ v) }

/-- Closes the open field. -/
def close (s : Fields) : Fields :=
  match s.current with
  | some v => ⟨v :: s.done, none⟩
  | none => s

/-- Puts several fields behind the open one. -/
def addAll (s : Fields) : List Field → Fields
  | [] => s
  | [v] => s.add v
  | v :: rest => ((s.add v).close).addAll rest

/-- Whether a value is cut at a character. -/
def cutsAt (c : Char) : Bool := c = ' ' || c = '\t' || c = '\n'

/-- Puts a value behind the open field and cuts it at blanks. -/
def addCut (s : Fields) (v : Field) : Fields :=
  let runs := Text.runsBetween cutsAt [] v
  let s := if v.head?.any cutsAt then s.close else s
  let s := s.addAll runs
  if v.getLast?.any cutsAt then s.close else s

/-- The fields in their order. -/
def toList (s : Fields) : List Field := s.close.done.reverse

end Fields

/-- Values without the line feeds at their end and without zero bytes. -/
def trimOutput (cs : List Char) : Field :=
  ((cs.filter (· ≠ '\x00')).reverse.dropWhile (· = '\n')).reverse

/-- The value of a variable in an expression. -/
def intValue (m : Machine) (name : String) : Int := ((valueOf m name).bind intOf?).getD 0

/-- The pieces of a text that stands in the place of a value. -/
def innerPieces (text : List Char) : Word :=
  match doubleQuoted [] (text.length + 2) (text ++ ['"']) with
  | some (pieces, _) => pieces.reverse
  | none => [.text text]

/-- **Whether a pattern matches a text**: a star stands for any text, and a question mark for any
byte. -/
def globMatches : List Char → List Char → Bool
  | [], s => s.isEmpty
  | '*' :: p, s => (List.range (s.length + 1)).any fun n => globMatches p (s.drop n)
  | c :: p, d :: s => (c = '?' || c = d) && globMatches p s
  | _ :: _, [] => false

/-- A value without the shortest or the longest beginning or end that a pattern matches. -/
def withoutMatch (atEnd longest : Bool) (pattern : List Char) (v : Field) : Field :=
  let lengths := List.range (v.length + 1)
  let fits (n : Nat) : Bool :=
    globMatches pattern (if atEnd then v.drop (v.length - n) else v.take n)
  match (if longest then lengths.reverse else lengths).find? fits with
  | some n => if atEnd then v.take (v.length - n) else v.drop n
  | none => v

/-- The value of a piece as one field. `inner` gives the values of the pieces in a text that stands
in its place. -/
def pieceValue (capture : List Char → Action Field) (inner : Piece → Action Field) :
    Piece → Action Field
  | .text s => return s
  | .output script _ => capture script
  | .number expression => do
    match evaluate (intValue (← get)) expression with
    | .ok n => return numberField n
    | .error e =>
      complainAt ("arithmetic expression: " ++ e.reason ++ ": \"" ++ Text.ofOctets expression ++
        "\"")
      throw (.exit 2)
  | .variable name usage _ => do
    let value := valueOf (← get) name
    let v := value.getD []
    let expanded (text : List Char) : Action Field := do
      return (← (innerPieces text).mapM inner).flatten
    let counts (emptyToo : Bool) : Bool := value.isSome && !(emptyToo && v.isEmpty)
    match usage with
    | .plain => return v
    | .length => return numberField v.length
    | .orElse emptyToo text => if counts emptyToo then return v else expanded text
    | .instead emptyToo text => if counts emptyToo then expanded text else return []
    | .without atEnd longest pattern =>
      return withoutMatch atEnd longest (← expanded pattern) v

/-- The value of a piece, at most `depth` texts deep. -/
def pieceField (capture : List Char → Action Field) : Nat → Piece → Action Field
  | 0, _ => return []
  | depth + 1, p => pieceValue capture (pieceField capture depth) p

/-- How deep texts in the place of values are followed. -/
def maxInner : Nat := 16

/-- Puts what a piece stands for behind fields. -/
def addPiece (capture : List Char → Action Field) (s : Fields) (p : Piece) : Action Fields := do
  match p with
  | .variable "@" .plain true =>
    let args := (← frame).args
    match s.current with
    | some [] => return if args.isEmpty then { s with current := none } else s.addAll args
    | _ => return s.addAll args
  | .variable _ _ false | .output _ false =>
    return s.addCut (← pieceField capture maxInner p)
  | _ => return s.add (← pieceField capture maxInner p)

/-- **The fields that a word stands for.** -/
def expandWord (capture : List Char → Action Field) (w : Word) : Action (List Field) := do
  return (← w.foldlM (addPiece capture) Fields.empty).toList

/-- **The fields that words stand for.** -/
def expandWords (capture : List Char → Action Field) (ws : List Word) : Action (List Field) := do
  return (← ws.mapM (expandWord capture)).flatten

/-- **The value that a word stands for** where it is not cut. -/
def expandWhole (capture : List Char → Action Field) (w : Word) : Action Field := do
  return (← w.mapM (pieceField capture maxInner)).flatten

end RtlFlow.Shell
