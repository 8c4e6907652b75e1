import StyleSnapshot.Shell.Builtin.Flow

/-! Running commands.

A command leaves its status with the machine. A failure that nobody tests ends a script
that has asked for it. -/
namespace StyleSnapshot.Shell.Run

/-! ### Calls -/

/-- What the first word of a call stands for. -/
inductive Callee where
  | nothing
  /-- A command of the script; a special one belongs to the language. -/
  | builtin (isSpecial : Bool) (run : List Octets → Run Nat)
  | function (body : Command)
  | program

/-- A call whose words have been expanded. -/
structure Call where
  callee : Callee
  words : List Octets

/-- The words behind those that only say how the command is to be looked up, and whether
there are any such words. None if the words ask for something else. -/
def plainWords (hasLead : Bool) : Nat → List Octets → Option (Bool × List Octets)
  | 0, ws => some (hasLead, ws)
  | fuel + 1, w :: ws =>
    if w ≠ "command".toList then some (hasLead, w :: ws)
    else
      let behind := ws.dropWhile fun o => o = "-p".toList
      match behind with
      | [] => none
      | ['-', '-'] :: [] => none
      | ['-', '-'] :: behind => plainWords true fuel behind
      | ('-' :: _ :: _) :: _ => none
      | behind => plainWords true fuel behind
  | _, [] => some (hasLead, [])

/-- Commands whose words may be assignments. -/
def declaringNames : List Octets := ["export".toList, "readonly".toList, "local".toList]

/-- Whether words of a call that follow the given ones may be assignments. -/
def isDeclaring (m : Machine) (ws : List Octets) : Bool :=
  match plainWords false ws.length ws with
  | some (_, name :: _) => name ∈ declaringNames && m.functions.all (·.1 ≠ name)
  | _ => false

/-- The texts of words that follow those at hand. -/
def gather (e : Evaluator) (soFar : List Octets) : List Word → Run (List Octets)
  | [] => pure soFar
  | w :: more => do
    let assigned := if isDeclaring (← get) soFar then Reader.assigned? ⟨w, false⟩ else none
    let found ← match assigned with
      | some (name, value) => do
        let ps ← e.expand .assignment value
        pure [name ++ '=' :: (Fields.whole ps).text]
      | none => Expansion.fields e w
    gather e (soFar ++ found) more

/-- The words of a lookup for a command that does more than to start it: a description, or
nothing at all. -/
def lookUp (ws : List Octets) : Run Nat := do
  let (found, ws) ← Builtin.options ['p', 'v', 'V'] [] ws.length ws
  match found.find? (·.1 ≠ 'p') with
  | some (c, _) => if ws = [] then return 0 else Builtin.describe (c = 'V') (ws.take 1)
  | none => return 0

/-- What words call. -/
def callOf (e : Evaluator) (isTested : Bool) (m : Machine) (ws : List Octets) : Call :=
  match plainWords false ws.length ws with
  | none => ⟨.builtin false lookUp, ws⟩
  | some (_, []) => ⟨.nothing, []⟩
  | some (hasLead, name :: arguments) =>
    let words := name :: arguments
    match if hasLead then none else m.functions.lookup name with
    | some body => ⟨.function body, words⟩
    | none =>
      match Builtin.ofName? e isTested name with
      | some run => ⟨.builtin (name ∈ Builtin.specialNames && !hasLead) run, words⟩
      | none => ⟨.program, words⟩

/-- Whether what a call assigns stays when it is over. -/
def Callee.keepsAssignments : Callee → Bool
  | .nothing => true
  | .builtin isSpecial _ => isSpecial
  | .function _ | .program => false

/-! ### Taking calls -/

/-- How deep functions may call each other. -/
def callDepth : Nat := 1000

/-- Runs the body of a function with arguments of its own. -/
def inFunction (e : Evaluator) (isTested : Bool) (body : Command) (arguments : List Octets) :
    Run Unit := do
  if callDepth ≤ (← get).calls then
    Run.fail "Maximum function recursion depth (1000) reached".toList
  let restore (before after : Machine) : Machine :=
    { after with
      arguments := before.arguments, calls := before.calls, loops := before.loops }
  Run.restoring restore do
    modify fun m => { m with arguments := arguments, calls := m.calls + 1, loops := 0 }
    try e.command isTested body catch h =>
      match h with
      | .result => pure ()
      | h => throw h

/-- Runs a command of the script. Only a special one lets an error end the script. -/
def inBuiltin (isSpecial : Bool) (name : Octets) (run : Run Nat) : Run Unit :=
  Run.speakingOf name do
    try Run.setStatus (← run) catch h =>
      if h = .error && !isSpecial then pure () else throw h

/-- Runs a program that words name. -/
def inProgram (e : Evaluator) (name : Octets) (arguments : List Octets) : Run Unit := do
  match Builtin.find (← get) name with
  | .ok program => Evaluator.mourn (← Builtin.launch e program name arguments)
  | .error r =>
    Run.complain (name ++ ": ".toList ++ r.reason)
    Run.setStatus r.status

/-- Takes a call. -/
def take (e : Evaluator) (isTested : Bool) (c : Call) : Run Unit := do
  match c.callee, c.words with
  | .function body, _ :: arguments => inFunction e isTested body arguments
  | .builtin isSpecial run, name :: arguments => inBuiltin isSpecial name (run arguments)
  | .program, name :: arguments => inProgram e name arguments
  | _, _ => modify fun m => { m with status := m.substituted }

/-- Assigns the values of words to names, for good or for the call at hand. -/
def assignAll (e : Evaluator) (isKept : Bool) (assignments : List (Octets × Word)) :
    Run (List Octets) :=
  assignments.mapM fun (name, w) => do
    let value := (Fields.whole (← e.expand .assignment w)).text
    if !isKept then Run.hide name
    Run.change name fun b =>
      { b with value := some value, isExported := b.isExported || !isKept }
    return name ++ '=' :: value

/-- Shows a call before it is taken, if that was asked for. -/
def trace (descriptors : List (Nat × Nat)) (ws : List Octets) : Run Unit := do
  let m ← get
  if 'x' ∈ m.options && ws ≠ [] then
    let lead := ((m.bindings.lookup "PS4".toList).bind (·.value)).getD "+ ".toList
    let shown := { m.toProcess with descriptors := descriptors }
    let p := shown.tell 2 (lead ++ Text.join [' '] ws ++ ['\n'])
    set { m with toProcess := m.toProcess.within p.toWorld }

/-- Whether the redirections of a call stay when it is over. -/
def keepsRedirections (ws : List Octets) : Bool :=
  match plainWords false ws.length ws with
  | some (_, name :: _) => name = "exec".toList
  | _ => false

def simple (e : Evaluator) (isTested : Bool) (line : Nat) (assignments : List (Octets × Word))
    (words : List Word) (redirections : List Redirection) : Run Unit := do
  modify fun m => { m with line := line, substituted := 0 }
  let ws ← gather e [] words
  let c := callOf e isTested (← get) ws
  let targets ← redirections.mapM (Redirection.target e)
  let descriptors := (← get).descriptors
  let body : Run Unit := do
    if ← Redirection.applyAll targets then
      let assigned ← assignAll e c.callee.keepsAssignments assignments
      trace descriptors (assigned ++ ws)
      take e isTested c
    else
      Run.setStatus 2
      match c.callee with
      | .builtin true _ => throw .error
      | _ => pure ()
  let body := if c.callee.keepsAssignments then body else Run.inCall body
  if keepsRedirections ws then body
  else
    Run.restoring (fun before after => { after with descriptors := before.descriptors }) body

/-! ### Commands made of others -/

/-- Does what is to be done on signals that were caught, and ends the script after a failure
that nobody tested, if that was asked for. -/
def conclude (e : Evaluator) (isTested : Bool) : Run Unit := do
  e.runTraps
  let m ← get
  if m.status ≠ 0 && !isTested && 'e' ∈ m.options then throw .exit

/-- Repeats a step until it says that it is the last. -/
def iterate (step : Run Bool) : Nat → Run Unit
  | 0 => pure ()
  | fuel + 1 => do if ← step then iterate step fuel

/-- How often a loop may go round. -/
def mostRounds : Nat := 100000000

/-- Takes a round of a loop, and tells whether the loop goes on. -/
def round (step : Run Bool) : Run Bool := do
  try step catch h =>
    match h with
    | .leave n => if n ≤ 1 then return false else throw (.leave (n - 1))
    | .again n => if n ≤ 1 then return true else throw (.again (n - 1))
    | h => throw h

def inLoop (step : Run Unit) : Run Unit :=
  Run.restoring (fun before after => { after with loops := before.loops }) do
    modify fun m => { m with loops := m.loops + 1 }
    step

/-- Runs commands joined by pipes, each in a shell of its own. The status is that of the
last. -/
def pipe (e : Evaluator) (isTested : Bool) : List Command → Run ExitStatus
  | [] => return .exited 0
  | [c] => e.apart id (e.command isTested c)
  | c :: more => do
    let m ← get
    let (world, sink) := m.toWorld.opened (.sink [] 0 (some Stream.pipeBound))
    set { m with toProcess := m.toProcess.within world }
    let _ ← e.apart (·.withStream 1 sink) (e.command isTested c)
    let m' ← get
    let (world, source) := m'.toWorld.opened (.source (m'.toWorld.written sink))
    set { m' with toProcess := (m'.toProcess.within world).withStream 0 source }
    let status ← pipe e isTested more
    modify fun m' => { m' with descriptors := m.descriptors }
    return status

/-- Leaves a command to the time when somebody waits for it. -/
def defer (e : Evaluator) (c : Command) : Run Unit := do
  let m ← get
  let finish (world : World) : World × ExitStatus :=
    let (world, nothing) := world.opened .nothing
    let start := { m with toProcess := (m.toProcess.within world).withStream 0 nothing }
    let (after, status) := e.splitOff start (e.command false c)
    (after.toWorld, status)
  let job : Job := ⟨m.nextJob, finish⟩
  set { m with
    jobs := m.jobs ++ [job]
    lastJob := some m.nextJob
    nextJob := m.nextJob + 1
    status := 0 }

/-- Runs commands in a shell of their own. -/
def subshell (e : Evaluator) (isTested : Bool) (line : Nat) (body : Command)
    (redirections : List Redirection) : Run Unit := do
  modify fun m => { m with line := line }
  let targets ← redirections.mapM (Redirection.target e)
  let status ← e.apart id do
    if ← Redirection.applyAll targets then e.command isTested body
    else
      Run.setStatus 2
      throw .error
  Evaluator.mourn status

def each (e : Evaluator) (isTested : Bool) (name : Octets) (body : Command) :
    List Octets → Run Unit
  | [] => pure ()
  | t :: more => do
    let goesOn ← round do
      Run.assign name t
      e.command isTested body
      return true
    if goesOn then each e isTested name body more

/-- Whether a text matches one of some patterns. -/
def matchesAny (e : Evaluator) (subject : Octets) : List Word → Run Bool
  | [] => return false
  | w :: more => do
    if (← Expansion.pattern e w).holds subject then return true else matchesAny e subject more

/-- Runs the commands of the first arm that has a pattern for the subject. -/
def choose (e : Evaluator) (isTested : Bool) (subject : Octets) :
    List (List Word × Option Command) → Run Unit
  | [] => Run.setStatus 0
  | (ws, body) :: more => do
    if ← matchesAny e subject ws then
      match body with
      | some c => e.command isTested c
      | none => Run.setStatus 0
    else choose e isTested subject more

/-- Repeats the body as long as the condition ends as it should. The status is that of the
last round. -/
def repeatWhile (e : Evaluator) (isTested onSuccess : Bool) (condition body : Command) :
    Nat → (last : Nat) → Run Unit
  | 0, _ => pure ()
  | fuel + 1, last => do
    let goesOn ← round do
      e.command true condition
      if ((← get).status = 0) = onSuccess then
        e.command isTested body
        return true
      else
        Run.setStatus last
        return false
    if goesOn then repeatWhile e isTested onSuccess condition body fuel (← get).status

/-- Runs a command by means of what is nested in it. -/
def step (e : Evaluator) (isTested : Bool) : Command → Run Unit
  | .simple line assignments words redirections => do
    simple e isTested line assignments words redirections
    conclude e isTested
  | .redirected line body redirections => do
    modify fun m => { m with line := line }
    let targets ← redirections.mapM (Redirection.target e)
    if !(← Redirection.around targets (e.command isTested body)) then
      Run.setStatus 2
      conclude e isTested
  | .sequence first second => do
    step e isTested first
    if 'n' ∉ (← get).options then step e isTested second
  | .conditional onSuccess first second => do
    step e true first
    if ((← get).status = 0) = onSuccess then step e isTested second
  | .negation c => do
    step e true c
    modify fun m => { m with status := if m.status = 0 then 1 else 0 }
  | .pipeline cs => do
    Evaluator.mourn (← pipe e isTested cs)
    conclude e isTested
  | .background c => defer e c
  | .subshell line body redirections => do
    subshell e isTested line body redirections
    conclude e isTested
  | .branch condition yes no => do
    step e true condition
    if (← get).status = 0 then step e isTested yes
    else
      match no with
      | some c => e.command isTested c
      | none => Run.setStatus 0
  | .loop onSuccess condition body =>
    inLoop (repeatWhile e isTested onSuccess condition body mostRounds 0)
  | .each line name words body => do
    modify fun m => { m with line := line }
    let texts ← words.mapM (Expansion.fields e)
    Run.setStatus 0
    inLoop (each e isTested name body texts.flatten)
  | .choice line subject arms => do
    modify fun m => { m with line := line }
    choose e isTested (← Expansion.text e subject) arms
  | .definition name body =>
    modify fun m =>
      { m with status := 0, functions := (name, body) :: m.functions.filter (·.1 ≠ name) }

/-- Runs a command, unless commands are only to be read. -/
def command (e : Evaluator) (isTested : Bool) (c : Command) : Run Unit := do
  if 'n' ∈ (← get).options then Run.setStatus 0 else step e isTested c

/-! ### Scripts -/

/-- Runs the lines of a script from a cursor on. -/
def lines (e : Evaluator) (isTested : Bool) : Nat → Cursor → Run Unit
  | 0, _ => pure ()
  | fuel + 1, k => do
    let m ← get
    match Reader.line
        { k with next := m.next, documents := [], outer := m.line, aliases := m.aliases } with
    | .error fault =>
      modify fun m => { m with line := fault.line }
      Run.fail fault.message
    | .ok l =>
      modify fun m =>
        { m with documents := l.cursor.documents ++ m.documents, next := l.cursor.next }
      match l.command with
      | some c => e.command isTested c
      | none => pure ()
      if !l.isLast then lines e isTested fuel l.cursor

/-- Runs the script that a text writes. -/
def script (e : Evaluator) (isTested : Bool) (line : Nat) (t : Octets) : Run Unit := do
  let m ← get
  lines e isTested (t.length + 2) { rest := t, line := line, next := m.next, outer := m.line }

end StyleSnapshot.Shell.Run
