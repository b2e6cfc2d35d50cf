import RtlFlow.Shell.Expansion

/-! # Redirections

Where the channels of a command go: to files, to devices, or where another channel goes. A file is
emptied or created when it is opened, before the command runs. -/

namespace RtlFlow.Shell

/-- Why a file cannot be opened, as a shell says it. -/
def openFailure (creating : Bool) (name : Field) (e : Fault) : String :=
  let reason :=
    match e with
    | .notFound | .notDirectory => if creating then "Directory nonexistent" else "No such file"
    | e => faultText e
  (if creating then "cannot create " else "cannot open ") ++ Text.ofOctets name ++ ": " ++ reason

/-- Opens a file for output. -/
def openSink (append : Bool) (name : Field) : Action (Except String Sink) := do
  let m ← get
  let path := pathOf name
  if path.text = nullDevice then return .ok .nowhere
  else if path.text = "/dev/stdout" then return .ok m.frame.out
  else if path.text = "/dev/stderr" then return .ok m.frame.err
  else
    match m.files.fileSpot path with
    | .error e => return .error (openFailure true name e)
    | .ok l =>
      let (executable, content) :=
        match m.files.entryAt? l with
        | some (.file content x) => (x, if append then content else ByteArray.empty)
        | _ => (false, ByteArray.empty)
      set { m with files := m.files.put l (.file content executable) }
      return .ok (.file l)

/-- Sets where a channel goes. -/
def setChannel (channel : Nat) (sink : Sink) : Action Unit :=
  modifyFrame fun f =>
    if channel = 1 then { f with out := sink }
    else if channel = 2 then { f with err := sink }
    else f

/-- **Does a redirection**; answers why it cannot be done. -/
def redirect (capture : List Char → Action Field) (r : Redirect) : Action (Option String) := do
  let target ← expandWhole capture r.target
  match r.kind with
  | .input =>
    match openStream (← get).files target with
    | .ok s =>
      if r.channel = 0 then modifyFrame ({ · with input := s })
      return none
    | .error e => return some (openFailure false target e)
  | .sameAs =>
    let f ← frame
    match target with
    | ['1'] => setChannel r.channel f.out
    | ['2'] => setChannel r.channel f.err
    | _ => setChannel r.channel .nowhere
    return none
  | .replace | .append =>
    match ← openSink (r.kind = .append) target with
    | .ok sink =>
      setChannel r.channel sink
      return none
    | .error text => return some text

/-- Does redirections in turn, up to the first one that cannot be done. -/
def redirectAll (capture : List Char → Action Field) : List Redirect → Action (Option String)
  | [] => return none
  | r :: rest => do
    match ← redirect capture r with
    | some text => return some text
    | none => redirectAll capture rest

/-- Runs an action and then puts back a part of the frame, however the action ended. -/
def restoring {α : Type} (restore : Frame → Frame → Frame) (a : Action α) : Action α := do
  let before ← frame
  let r ← outcome a
  modifyFrame (restore before)
  match r with
  | .ok x => return x
  | .error e => throw e

/-- The channels of an earlier frame. Input that was read in between stays read. -/
def channelsOf (inputToo : Bool) (before now : Frame) : Frame :=
  { now with
    out := before.out, err := before.err, input := if inputToo then before.input else now.input }

/-- Runs an action under redirections. -/
def redirected (capture : List Char → Action Field) (redirects : List Redirect)
    (a : Action Nat) : Action Nat :=
  restoring (channelsOf (redirects.any (·.channel = 0))) do
    match ← redirectAll capture redirects with
    | some text =>
      complainAt text
      return 2
    | none => a

end RtlFlow.Shell
