/-! # Finding and replacing text

Plain searches for one text in another: `contains`, `splitFirst` at the first occurrence, and
`replaceAll`, which replaces every occurrence from left to right without looking into what it has
put in. -/

namespace RtlFlow.Text

/-- The rest of `cs` behind `pat`, when `cs` begins with `pat`. -/
def dropLead? : List Char → List Char → Option (List Char)
  | [], cs => some cs
  | p :: ps, c :: cs => if p = c then dropLead? ps cs else none
  | _ :: _, [] => none

/-- The text before and behind the first occurrence of `pat`. `before` holds what has been passed,
last character first. -/
def cutAt? (pat : List Char) (before : List Char) : List Char → Option (List Char × List Char)
  | [] => if pat.isEmpty then some (before.reverse, []) else none
  | c :: cs =>
    match dropLead? pat (c :: cs) with
    | some rest => some (before.reverse, rest)
    | none => cutAt? pat (c :: before) cs

/-- **The text cut at the first occurrence** of `pat`: what stands before it and behind it. -/
def splitFirst? (pat s : String) : Option (String × String) :=
  (cutAt? pat.toList [] s.toList).map fun (a, b) => (String.ofList a, String.ofList b)

/-- Whether `pat` occurs in `s`. -/
def contains (s pat : String) : Bool := (splitFirst? pat s).isSome

/-- Replaces every occurrence of the nonempty text `p :: ps` from left to right. `skip` counts the
characters of an occurrence that are still to be passed. -/
def replaceFrom (p : Char) (ps new : List Char) (skip : Nat) : List Char → List Char
  | [] => []
  | c :: cs =>
    if skip = 0 then
      if (dropLead? (p :: ps) (c :: cs)).isSome then new ++ replaceFrom p ps new ps.length cs
      else c :: replaceFrom p ps new 0 cs
    else replaceFrom p ps new (skip - 1) cs

/-- **The text with every occurrence replaced**, from left to right; what is put in is not searched
again. An empty `old` leaves the text as it is. -/
def replaceAll (s old new : String) : String :=
  match old.toList with
  | [] => s
  | p :: ps => if contains s old then String.ofList (replaceFrom p ps new.toList 0 s.toList) else s

end RtlFlow.Text
