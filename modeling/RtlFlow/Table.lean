/-! # Ordered tables

A table is a list of keys with values in ascending order of the keys, where the order is given by
a strict comparison. Two keys neither of which comes before the other count as one key; putting a
value under such a key keeps the spelling of the key that is there. -/

namespace RtlFlow.Table

variable {κ α : Type}

/-- **The table with a value put under a key.** -/
def put (before : κ → κ → Bool) (k : κ) (v : α) : List (κ × α) → List (κ × α)
  | [] => [(k, v)]
  | (k', v') :: rest =>
    if before k k' then (k, v) :: (k', v') :: rest
    else if before k' k then (k', v') :: put before k v rest
    else (k', v) :: rest

/-- Whether two keys count as one. -/
def sameKey (before : κ → κ → Bool) (k k' : κ) : Bool := !before k k' && !before k' k

/-- **The value under a key.** -/
def get? (before : κ → κ → Bool) (k : κ) (table : List (κ × α)) : Option α :=
  (table.find? fun (k', _) => sameKey before k k').map (·.2)

/-- **The table without a key.** -/
def erase (before : κ → κ → Bool) (k : κ) (table : List (κ × α)) : List (κ × α) :=
  table.filter fun (k', _) => !sameKey before k k'

/-- The table of a list of keys and values, where a later value replaces an earlier one. -/
def ofList (before : κ → κ → Bool) (pairs : List (κ × α)) : List (κ × α) :=
  pairs.foldl (fun table (k, v) => put before k v table) []

/-- The order of texts as keys. -/
def textBefore (s t : String) : Bool := s < t

/-- The order of pairs of texts as keys. -/
def pairBefore (p q : String × String) : Bool := p.1 < q.1 || (p.1 == q.1 && p.2 < q.2)

/-- A set of texts in ascending order, with one more. -/
def addText (s : String) (set : List String) : List String :=
  match set with
  | [] => [s]
  | t :: rest => if s < t then s :: t :: rest else if t < s then t :: addText s rest else t :: rest

/-- The texts of a list as a set in ascending order. -/
def textSet (texts : List String) : List String := texts.foldl (fun set s => addText s set) []

end RtlFlow.Table
