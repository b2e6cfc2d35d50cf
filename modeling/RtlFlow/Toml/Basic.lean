import RtlFlow.Number.Binary64

/-! # TOML values

What a TOML document holds, and the tree in which a document is put together. A table of the tree
remembers how it came about, because that decides whether it may be opened again or extended: a
table with a header of its own is closed for dotted keys, a table that only stands on the way of
another header may still get its own, and a table that dotted keys have made may be extended by
dotted keys alone. -/

namespace RtlFlow.Toml

open RtlFlow.Number

/-- **A TOML value.** -/
inductive Value where
  /-- A string. -/
  | text (s : String)
  /-- A signed 64-bit integer. -/
  | integer (n : Int)
  /-- A floating point number. -/
  | float (x : Binary64)
  /-- A truth value. -/
  | bool (b : Bool)
  /-- A date, a time of day or both, as text in normal form. -/
  | datetime (text : String)
  /-- A list. -/
  | array (items : List Value)
  /-- A table with its members in order. -/
  | table (members : List (String × Value))
  deriving Repr, Inhabited

/-- **Why a text is no TOML document.** -/
inductive ReadError where
  /-- The text ends too early. -/
  | ended
  /-- A character cannot stand where it does. -/
  | unexpected (c : Char)
  /-- An escape in a string stands for no character. -/
  | escape
  /-- A number or date is malformed or out of range. -/
  | number
  /-- A name is given twice. -/
  | duplicate (key : String)
  /-- A name is used as that of a table and is none. -/
  | notTable (key : String)
  /-- Values or names are nested too deep. -/
  | depth
  deriving DecidableEq, Repr

/-- The wording of a reading error. -/
def ReadError.message : ReadError → String
  | .ended => "unexpected end of document"
  | .unexpected c => "unexpected character '" ++ c.toString ++ "'"
  | .escape => "invalid escape sequence"
  | .number => "invalid number or date"
  | .duplicate key => "duplicate key '" ++ key ++ "'"
  | .notTable key => "'" ++ key ++ "' is not a table"
  | .depth => "nested too deep"

/-- **How a table came about.** -/
inductive Origin where
  /-- By a header of its own. -/
  | header
  /-- On the way of another header. -/
  | implied
  /-- By dotted keys. -/
  | dotted
  deriving DecidableEq, Repr, Inhabited

/-- **A node of a document that is put together.** -/
inductive Node where
  /-- A value, which cannot be extended. -/
  | value (v : Value)
  /-- A table. -/
  | table (origin : Origin) (members : List (String × Node))
  /-- A list of tables with headers, last one first. -/
  | tables (items : List (List (String × Node)))
  deriving Inhabited

/-- The members of a table. -/
abbrev Members := List (String × Node)

mutual

/-- **The value that a node has become.** -/
def Node.toValue : Node → Value
  | .value v => v
  | .table _ members => .table (membersToValues members)
  | .tables items => .array (tablesToValues items).reverse

/-- The members of a table as values. -/
def membersToValues : List (String × Node) → List (String × Value)
  | [] => []
  | (k, n) :: rest => (k, n.toValue) :: membersToValues rest

/-- The tables of a list as values. -/
def tablesToValues : List (List (String × Node)) → List Value
  | [] => []
  | members :: rest => .table (membersToValues members) :: tablesToValues rest

end

namespace Members

/-- Changes what stands under a key, or puts something under a free key. -/
def change (key : String) (f : Option Node → Except ReadError Node) :
    Members → Except ReadError Members
  | [] => do return [(key, ← f none)]
  | (k, n) :: rest =>
    if k = key then do return (k, ← f (some n)) :: rest
    else do return (k, n) :: (← change key f rest)

/-- **Changes the members of the table that a path of headers leads to**; tables that are missing
on the way are implied, and of a list of tables the last one is meant. -/
def within (f : Members → Except ReadError Members) :
    List String → Members → Except ReadError Members
  | [], members => f members
  | k :: path, members =>
    members.change k fun
      | none => do return .table .implied (← within f path [])
      | some (.table origin inner) => do return .table origin (← within f path inner)
      | some (.tables (inner :: others)) => do return .tables ((← within f path inner) :: others)
      | some (.tables []) => .error (.notTable k)
      | some (.value _) => .error (.notTable k)

/-- **Puts a value under a dotted key**, given as the names before the last one and the last. The
names before the last one must be free, those of tables without headers, or those of lists of
tables, of which the last one is meant; and the table that gets the value must have been made by
dotted keys. -/
def insertDotted (key : String) (v : Value) : List String → Members → Except ReadError Members
  | [], members =>
    members.change key fun
      | none => .ok (.value v)
      | some _ => .error (.duplicate key)
  | k :: path, members =>
    members.change k fun
      | none => do return .table .dotted (← insertDotted key v path [])
      | some (.table origin inner) =>
        if origin = .header ∨ (path.isEmpty ∧ origin ≠ .dotted) then .error (.duplicate key)
        else do return .table origin (← insertDotted key v path inner)
      | some (.tables (inner :: others)) =>
        if path.isEmpty then .error (.duplicate key)
        else do return .tables ((← insertDotted key v path inner) :: others)
      | some (.tables []) => .error (.notTable k)
      | some (.value _) => .error (.notTable k)

/-- Gives a table its header, which it must not have yet. -/
def openTable (key : String) (members : Members) : Except ReadError Members :=
  members.change key fun
    | none => .ok (.table .header [])
    | some (.table .implied inner) => .ok (.table .header inner)
    | some _ => .error (.duplicate key)

/-- Begins a table of a list of tables. -/
def openItem (key : String) (members : Members) : Except ReadError Members :=
  members.change key fun
    | none => .ok (.tables [[]])
    | some (.tables items) => .ok (.tables ([] :: items))
    | some _ => .error (.duplicate key)

end Members

end RtlFlow.Toml
