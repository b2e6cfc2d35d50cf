import RtlFlow.Shell.Utility.Basic

/-! # Utilities for files

The utilities that create, copy, move, remove and list files, and those that ask about them or take
their names apart. -/

namespace RtlFlow.Shell

/-- Runs an operation on the file tree; a fault becomes a complaint. -/
def attempt (complain : Fault → String) (a : FileAction Fault Unit) :
    StateM FileTree (List String) := do
  match ← a.run with
  | .ok _ => return []
  | .error e => return [complain e]

/-- Runs an operation for each of some fields and gathers the complaints. -/
def attemptEach (fs : List Field) (f : Path → StateM FileTree (List String)) :
    StateM FileTree Reply := do
  return .ofComplaints (← fs.mapM fun x => f (pathOf x)).flatten

/-- The complaint of a utility that cannot do something with a file. -/
def cannot (utility deed : String) (p : Path) (e : Fault) : String :=
  utility ++ ": cannot " ++ deed ++ " '" ++ p.text ++ "': " ++ faultText e

/-- **Creates directories.** -/
def mkdir : Utility := fun args _ =>
  let (options, dirs) := letters args
  attemptEach dirs fun p =>
    attempt (cannot "mkdir" "create directory" p)
      (if options.contains 'p' then FileTree.makeDirs p else FileTree.makeDir p)

/-- **Removes empty directories.** -/
def rmdir : Utility := fun args _ =>
  attemptEach (letters args).2 fun p => do
    let t ← get
    match t.locate p with
    | .error e => return ["rmdir: failed to remove '" ++ p.text ++ "': " ++ faultText e]
    | .ok l =>
      if !t.isDir p then
        let e := if t.isPresent p then Fault.notDirectory else .notFound
        return ["rmdir: failed to remove '" ++ p.text ++ "': " ++ faultText e]
      else if !(t.namesIn l).isEmpty then
        return ["rmdir: failed to remove '" ++ p.text ++ "': Directory not empty"]
      else
        set (t.cut l)
        return []

/-- **Creates the files that are missing.** -/
def touch : Utility := fun args _ =>
  attemptEach (letters args).2 fun p => do
    if (← get).isPresent p then return []
    else
      attempt (fun e => "touch: cannot touch '" ++ p.text ++ "': " ++ faultText e)
        (FileTree.write p ByteArray.empty)

/-- **Removes files**, and directories with all below them where that is asked for. -/
def rm : Utility := fun args _ =>
  let (options, files) := letters args
  attemptEach files fun p => do
    let t ← get
    if (options.contains 'r' || options.contains 'R') && t.isPresent p then
      set (t.removeAll p)
      return []
    else if options.contains 'f' && !t.isPresent p then return []
    else attempt (cannot "rm" "remove" p) (FileTree.removeFile p)

/-- The path at which a file arrives that is copied or moved: inside a directory, or the path
itself. -/
def arrival (t : FileTree) (source target : Path) : Path :=
  if t.isDir target then target.child ((source.fileName?).getD "") else target

/-- The entries at a location and below it, put at another location. -/
def transplanted (t : FileTree) (l m : Location) : FileTree :=
  (t.entries.filter fun (k, _) => l.isPrefixOf k).foldl
    (fun t (k, e) => t.put (m ++ k.drop l.length) e) t

/-- Copies or moves what stands at a path. -/
def transfer (utility : String) (whole keep : Bool) (source target : Path) :
    StateM FileTree (List String) := do
  let t ← get
  let target := arrival t source target
  match t.locate source, t.locate target with
  | .error e, _ => return [utility ++ ": cannot stat '" ++ source.text ++ "': " ++ faultText e]
  | _, .error e =>
    return [utility ++ ": cannot create regular file '" ++ target.text ++ "': " ++ faultText e]
  | .ok l, .ok m =>
    match t.entryAt? l with
    | none =>
      return [utility ++ ": cannot stat '" ++ source.text ++ "': " ++ faultText .notFound]
    | some e =>
      if l = m then
        return [utility ++ ": '" ++ source.text ++ "' and '" ++ target.text ++
          "' are the same file"]
      else if e = .directory && !whole then
        return [utility ++ ": -r not specified; omitting directory '" ++ source.text ++ "'"]
      else
        let copied := transplanted t l m
        set (if keep then copied else copied.cut l)
        return []

/-- A utility that copies or moves its operands to the last of them. -/
def transferAll (utility : String) (keep : Bool) : Utility := fun args _ =>
  let (options, files) := letters args
  let whole := !keep || options.contains 'r' || options.contains 'R' || options.contains 'a'
  match files.reverse with
  | target :: source :: more =>
    attemptEach (source :: more).reverse fun p => transfer utility whole keep p (pathOf target)
  | _ => return ⟨.empty, [utility ++ ": missing file operand"], 1⟩

/-- **Copies files.** -/
def cp : Utility := transferAll "cp" true

/-- **Moves files.** -/
def mv : Utility := transferAll "mv" false

/-- **Changes whether files may be run.** -/
def chmod : Utility := fun args _ =>
  match args with
  | mode :: files =>
    let allows :=
      if mode.all Char.isDigit then mode.any fun c => c.toNat % 2 = 1 else !mode.contains '-'
    attemptEach files fun p => do
      let t ← get
      match t.locate p with
      | .error e => return ["chmod: cannot access '" ++ p.text ++ "': " ++ faultText e]
      | .ok l =>
        match t.entryAt? l with
        | some (.file content _) =>
          set (t.put l (.file content allows))
          return []
        | some .directory => return []
        | none => return ["chmod: cannot access '" ++ p.text ++ "': " ++ faultText .notFound]
  | [] => return ⟨.empty, ["chmod: missing operand"], 1⟩

/-- The names in a directory that are listed. -/
def listed (all : Bool) (names : List String) : List String :=
  if all then names else names.filter fun s => !s.startsWith "."

/-- **Lists files and directories.** -/
def ls : Utility := fun args _ => do
  let (options, operands) := letters args
  let all := options.contains 'a' || options.contains 'A'
  let t ← get
  let dots := if options.contains 'a' then [".", ".."] else []
  let paths := (if operands.isEmpty then [['.']] else operands).map pathOf
  let lines (names : List String) : List Char :=
    names.flatMap fun s => Text.octets s ++ ['\n']
  let dirs := (paths.filter t.isDir).map fun p =>
    let names := match t.locate p with | .ok l => t.namesIn l | .error _ => []
    let title := if paths.length = 1 then [] else Text.octets p.text ++ [':', '\n']
    title ++ lines (dots ++ listed all names)
  let files := lines ((paths.filter t.isFile).map (·.text))
  let missing := paths.filter fun p => !t.isPresent p
  let complaints := missing.map fun p =>
    let e := match t.locate p with | .error e => e | .ok _ => .notFound
    cannot "ls" "access" p e
  let blocks := (if files.isEmpty then [] else [files]) ++ dirs
  return ⟨.ofList (blocks.intersperse ['\n']).flatten, complaints,
    if complaints.isEmpty then 0 else 2⟩

/-- **Writes the working directory.** -/
def pwd : Utility := fun _ _ => do
  let t ← get
  return .ofList (Text.octets ("/" ++ "/".intercalate t.workingDir) ++ ['\n'])

/-- A name without the separators at its end. -/
def withoutSlashes (f : Field) : Field := (f.reverse.dropWhile (· = '/')).reverse

/-- **Writes the last name of a path**, without an ending. -/
def basename : Utility := fun args _ =>
  match args with
  | f :: rest =>
    let name := ((withoutSlashes f).reverse.takeWhile (· ≠ '/')).reverse
    let ending := (rest.head?).getD []
    let cut := if ending.isSuffixOf name && ending ≠ name then
      name.take (name.length - ending.length) else name
    return .ofList ((if cut.isEmpty && !f.isEmpty then ['/'] else cut) ++ ['\n'])
  | [] => return ⟨.empty, ["basename: missing operand"], 1⟩

/-- **Writes a path without its last name.** -/
def dirname : Utility := fun args _ =>
  match args with
  | f :: _ =>
    let body := withoutSlashes ((withoutSlashes f).reverse.dropWhile (· ≠ '/')).reverse
    let shown := if !body.isEmpty then body else if f.head? = some '/' then ['/'] else ['.']
    return .ofList (shown ++ ['\n'])
  | [] => return ⟨.empty, ["dirname: missing operand"], 1⟩

/-- What a letter asks about a file. -/
def askFile (t : FileTree) (letter : Char) (f : Field) : Bool :=
  let p := pathOf f
  let device := p.text = nullDevice || p.text = zeroDevice
  match letter with
  | 'f' => t.isFile p
  | 'd' => t.isDir p
  | 'e' => t.isPresent p || device
  | 'r' | 'w' => t.isPresent p || device
  | 's' => t.isDir p || (match t.read p with | .ok content => 0 < content.size | .error _ => false)
  | 'x' => t.isDir p || (match t.get? p with | some (.file _ x) => x | _ => false)
  | _ => false

/-- A question with an operator between two operands. -/
def askTwo (a op b : Field) : Option Bool :=
  let numbers (r : Int → Int → Bool) : Option Bool := do return r (← intOf? a) (← intOf? b)
  match String.ofList op with
  | "=" | "==" => some (a = b)
  | "!=" => some (a ≠ b)
  | "-eq" => numbers (· == ·)
  | "-ne" => numbers (· != ·)
  | "-lt" => numbers (· < ·)
  | "-le" => numbers (· ≤ ·)
  | "-gt" => numbers (· > ·)
  | "-ge" => numbers (· ≥ ·)
  | _ => none

/-- A question with an operator before its operand. -/
def askOne (t : FileTree) (op a : Field) : Option Bool :=
  match op with
  | ['-', 'n'] => some !a.isEmpty
  | ['-', 'z'] => some a.isEmpty
  | ['-', 't'] => some false
  | ['-', c] =>
    if ['f', 'd', 'e', 'r', 'w', 's', 'x'].contains c then some (askFile t c a) else none
  | _ => none

/-- **The answer to a question**; none when it is malformed. -/
def askWithin (t : FileTree) : Nat → List Field → Option Bool
  | 0, _ => none
  | _, [] => some false
  | _, [a] => some !a.isEmpty
  | fuel + 1, args =>
    let plain : Option Bool :=
      match args with
      | [a, b] => askOne t a b
      | [a, op, b] => askTwo a op b
      | _ => none
    let negated : Option Bool :=
      match args with
      | ['!'] :: rest => (askWithin t fuel rest).map (!·)
      | _ => none
    let split (op : Field) (join : Bool → Bool → Bool) : Option Bool :=
      let first := args.takeWhile (· ≠ op)
      if first.length < args.length && !first.isEmpty then do
        return join (← askWithin t fuel first) (← askWithin t fuel (args.drop (first.length + 1)))
      else none
    plain.or ((split ['-', 'o'] (· || ·)).or ((split ['-', 'a'] (· && ·)).or negated))

/-- **Answers a question about texts, numbers and files by its status.** -/
def test : Utility := fun args _ => do
  match askWithin (← get) (args.length + 1) args with
  | some b => return .ofBool b
  | none =>
    match args with
    | [a, op, b] =>
      if op.head? = some '-' && (intOf? a).isNone then
        return ⟨.empty, ["[: Illegal number: " ++ Text.ofOctets a], 2⟩
      else if op.head? = some '-' && (intOf? b).isNone then
        return ⟨.empty, ["[: Illegal number: " ++ Text.ofOctets b], 2⟩
      else return ⟨.empty, ["[: " ++ Text.ofOctets a ++ ": unexpected operator"], 2⟩
    | a :: _ => return ⟨.empty, ["[: " ++ Text.ofOctets a ++ ": unexpected operator"], 2⟩
    | [] => return .quiet 2

/-- **The test whose last argument is a closing bracket.** -/
def bracketTest : Utility := fun args input =>
  if args.getLast? = some [']'] then test args.dropLast input
  else return ⟨.empty, ["[: missing ]"], 2⟩

end RtlFlow.Shell
