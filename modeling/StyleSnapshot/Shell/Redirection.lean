import StyleSnapshot.Shell.Expansion

/-! Redirections.

The words of all redirections of a command are expanded before the first file is opened.
Files are opened one after the other, so those before a fault stay created. -/
namespace StyleSnapshot.Shell.Redirection

/-- A redirection whose words have been expanded. -/
inductive Target where
  | file (descriptor : Nat) (mode : OpenMode) (name : Octets)
  | copy (descriptor source : Nat)
  | close (descriptor : Nat)
  | document (descriptor : Nat) (t : Octets)
  deriving DecidableEq, Repr

def target (e : Evaluator) : Redirection → Run Target
  | .file descriptor mode w => return .file descriptor mode (← Expansion.text e w)
  | .copy descriptor w => do
    match ← Expansion.text e w with
    | ['-'] => return .close descriptor
    | [c] =>
      if c.isDigit then return .copy descriptor (c.toNat - 48)
      else Run.fail "Syntax error: Bad fd number".toList
    | _ => Run.fail "Syntax error: Bad fd number".toList
  | .document descriptor number => do
    let w := ((← get).documents.lookup number).getD []
    return .document descriptor (← Expansion.text e w)

/-! ### Opening files -/

def reasonOf (isInput : Bool) (e : AccessError) : Octets :=
  if e = .notFound || e = .notDirectory then
    if isInput then "No such file".toList else "Directory nonexistent".toList
  else Octets.ofText e.reason

/-- Why a file cannot be opened. -/
def refusal (isInput : Bool) (name : Octets) (e : AccessError) : Octets :=
  (if isInput then "cannot open ".toList else "cannot create ".toList) ++ name ++ ": ".toList ++
    reasonOf isInput e

/-- Leads a descriptor to what is at a place. -/
def lead (p : Process) (descriptor : Nat) (place : Location) (content : FileContent)
    (isAppended : Bool) : Process :=
  let stream := if content = .device then Stream.nothing else .file place 0 isAppended
  let (world, n) := p.toWorld.opened stream
  (p.within world).withStream descriptor n

/-- Opens what is at a place to be written, and creates a file if nothing is there. -/
def createAt (p : Process) (isProtected : Bool) (descriptor : Nat) (mode : OpenMode)
    (place : Location) : Except AccessError Process :=
  match p.tree.content? place with
  | some .directory => .error .isDirectory
  | some (.file bytes) =>
    if mode = .output && isProtected then .error .present
    else
      let keepsContent := mode = .append || mode = .both
      let content := FileContent.file (if keepsContent then bytes else [])
      let p := { p with tree := p.tree.put place content }
      .ok (lead p descriptor place content (mode = .append))
  | some content => .ok (lead p descriptor place content false)
  | none =>
    let content := FileContent.file []
    .ok (lead { p with tree := p.tree.put place content } descriptor place content
      (mode = .append))

/-- Opens a file that is written, and creates it if it is missing. -/
def create (p : Process) (isProtected : Bool) (descriptor : Nat) (mode : OpenMode)
    (name : Octets) : Except AccessError Process :=
  match p.tree.placeOf true p.directory (Octets.toText name) with
  | .error e => .error e
  | .ok place =>
    if (p.tree.content? place).isNone && name.getLast? = some '/' then .error .isDirectory
    else createAt p isProtected descriptor mode place

/-- Opens once more what a descriptor leads to: a file from its start, anything else as it
is. -/
def reopen (p : Process) (isProtected : Bool) (descriptor : Nat) (mode : OpenMode)
    (source : Nat) : Except AccessError Process :=
  match p.descriptors.lookup source with
  | none => .error .notFound
  | some stream =>
    match p.streams[stream]? with
    | some (.file place _ _) =>
      if mode = .input then .ok (lead p descriptor place (.file []) false)
      else createAt p isProtected descriptor mode place
    | _ => .ok (p.withStream descriptor stream)

/-- Opens a file by its name. -/
def openNamed (p : Process) (isProtected : Bool) (descriptor : Nat) (mode : OpenMode)
    (name : Octets) : Except AccessError Process :=
  match Process.descriptorAt? name, mode with
  | some source, mode => reopen p isProtected descriptor mode source
  | none, .input =>
    (p.tree.locateFrom p.directory (Octets.toText name)).map fun (place, content) =>
      lead p descriptor place content false
  | none, mode => create p isProtected descriptor mode name

/-- Applies a redirection to a process. -/
def apply (isProtected : Bool) (p : Process) : Target → Except Octets Process
  | .file descriptor mode name =>
    (openNamed p isProtected descriptor mode name).mapError (refusal (mode = .input) name)
  | .copy descriptor source =>
    match p.descriptors.lookup source with
    | some stream => .ok (p.withStream descriptor stream)
    | none => .error (Octets.ofInt source ++ ": Bad file descriptor".toList)
  | .close descriptor =>
    .ok { p with descriptors := p.descriptors.filter fun d => d.1 ≠ descriptor }
  | .document descriptor t =>
    let (world, n) := p.toWorld.opened (.source t)
    .ok ((p.within world).withStream descriptor n)

/-- Applies redirections, and tells whether that was possible. -/
def applyAll (targets : List Target) : Run Bool := do
  for t in targets do
    let m ← get
    match apply ('C' ∈ m.options) m.toProcess t with
    | .ok p => set { m with toProcess := p }
    | .error message =>
      Run.complain message
      return false
  return true

/-- Takes a step with redirections that end with it. Where they fail the step is not taken,
and the result tells so. -/
def around (targets : List Target) (step : Run Unit) : Run Bool :=
  Run.restoring (fun before after => { after with descriptors := before.descriptors }) do
    let isApplied ← applyAll targets
    if isApplied then step
    return isApplied

end StyleSnapshot.Shell.Redirection
