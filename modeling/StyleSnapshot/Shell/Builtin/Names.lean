import StyleSnapshot.Shell.Builtin.Text
import StyleSnapshot.Shell.Reader.Command

/-! Commands of a script about names, arguments and options. -/
namespace StyleSnapshot.Shell.Builtin

/-! ### Values written for a reader -/

/-- A text that a script reads as itself: in single quotes, save for the single quotes in
it, which stand in double quotes. -/
def quoted (t : Octets) : Octets :=
  go (t.length + 1) t
where
  go : Nat → Octets → Octets
    | 0, _ => []
    | fuel + 1, t =>
      let plain := t.takeWhile (· ≠ '\'')
      let behind := t.drop plain.length
      let quotes := behind.takeWhile (· = '\'')
      let rest := behind.drop quotes.length
      '\'' :: plain ++ ['\''] ++
        (if quotes = [] then [] else '"' :: quotes ++ ['"']) ++
        if rest = [] then [] else go fuel rest

/-- The lines that set the names that are asked for. -/
def listing (lead : Octets) (isListed : Binding → Bool) (m : Machine) : Octets :=
  let names := Text.sort ((m.bindings.filter fun b => isListed b.2).map (·.1))
  names.flatMap fun name =>
    let value := ((m.bindings.lookup name).bind (·.value)).map fun t => '=' :: quoted t
    lead ++ name ++ value.getD [] ++ ['\n']

/-! ### Marking names -/

/-- The name and the value of a word, if the name is one. -/
def definition (w : Octets) : Run (Octets × Option Octets) := do
  let (name, value) := match Text.cut? ['='] w with
    | some (name, value) => (name, some value)
    | none => (w, none)
  if isName name then return (name, value)
  else Run.fail (name ++ ": bad variable name".toList)

/-- Marks names and sets those that have a value with them. -/
def mark (command : Octets) (isMarked : Binding → Bool) (f : Binding → Binding)
    (ws : List Octets) : Run Nat := do
  let (found, ws) ← options ['p'] [] ws.length ws
  if found ≠ [] || ws = [] then output command (listing (command ++ [' ']) isMarked (← get))
  else
    for w in ws do
      let (name, value) ← definition w
      match value with
      | some value => Run.change name fun b => f { b with value := some value }
      | none =>
        let b := (← Run.binding? name).getD ⟨none, false, false⟩
        Run.setBinding name (some (f b))
    return 0

def exportNames (ws : List Octets) : Run Nat :=
  mark "export".toList (·.isExported) (fun b => { b with isExported := true }) ws

def protectNames (ws : List Octets) : Run Nat :=
  mark "readonly".toList (·.isReadOnly) (fun b => { b with isReadOnly := true }) ws

def unsetNames (ws : List Octets) : Run Nat := do
  let (found, ws) ← options ['v', 'f'] [] ws.length ws
  for w in ws do
    if found.getLast?.any (·.1 = 'f') then
      modify fun m => { m with functions := m.functions.filter (·.1 ≠ w) }
    else
      let (name, _) ← definition w
      Run.change name id
      Run.setBinding name none
  return 0

/-- Keeps names to the function at hand. -/
def hideNames (ws : List Octets) : Run Nat := do
  if (← get).calls = 0 then Run.fail "not in a function".toList
  for w in ws do
    if w ≠ ['-'] then
      let (name, value) ← definition w
      Run.hide name
      match value with
      | some value => Run.assign name value
      | none => pure ()
  return 0

/-! ### Aliases -/

def aliasLine (entry : Octets × Octets) : Octets := entry.1 ++ '=' :: quoted entry.2 ++ ['\n']

/-- Sets or shows aliases. All of them are shown group by group. -/
def aliasNames (ws : List Octets) : Run Nat := do
  if ws = [] then
    let m ← get
    let shown := (List.range Machine.groups).flatMap fun n =>
      m.aliases.filter fun entry => Machine.groupOf entry.1 = n
    output "alias".toList (shown.flatMap aliasLine)
  else
    ws.foldlM (fun status w => do
      let m ← get
      match (w.drop 1).findIdx? (· = '=') with
      | some i =>
        let name := w.take (i + 1)
        let entry := (name, w.drop (i + 2))
        let isKnown := m.aliases.any (·.1 = name)
        let known := m.aliases.map fun old => if old.1 = name then entry else old
        set { m with aliases := if isKnown then known else m.aliases ++ [entry] }
        return status
      | none =>
        match m.aliases.lookup w with
        | some text =>
          let _ ← Run.print (aliasLine (w, text))
          return status
        | none =>
          let p := m.toProcess.tell 2 ("alias: ".toList ++ w ++ " not found\n".toList)
          set { m with toProcess := p }
          return 1) 0

def unaliasNames (ws : List Octets) : Run Nat := do
  let (found, ws) ← options ['a'] [] ws.length ws
  if found ≠ [] then
    modify fun m => { m with aliases := [] }
    return 0
  ws.foldlM (fun status w => do
    let m ← get
    if m.aliases.any (·.1 = w) then
      set { m with aliases := m.aliases.filter (·.1 ≠ w) }
      return status
    else
      let p := m.toProcess.tell 2 ("unalias: ".toList ++ w ++ " not found\n".toList)
      set { m with toProcess := p }
      return 1) 0

/-! ### Arguments -/

def shift (ws : List Octets) : Run Nat := do
  let count ← match ws with
    | [] => pure 1
    | w :: _ => Run.natural w
  let m ← get
  if m.arguments.length < count then Run.fail "can't shift that many".toList
  set { m with arguments := m.arguments.drop count, optionOffset := 0 }
  return 0

/-! ### Options of the script -/

def setOption (isOn : Bool) (c : Char) : Run Unit := do
  if Expansion.optionNames.any fun o => o.1 = c && c ≠ '\x00' then
    modify fun m =>
      let others := m.options.filter (· ≠ c)
      { m with options := if isOn then c :: others else others }
  else Run.fail ("Illegal option -".toList ++ [c])

/-- The options and whether they are on. -/
def optionListing (isOn : Bool) (m : Machine) : Octets :=
  let line (o : Char × Octets) : Octets :=
    let isSet := o.1 ∈ m.options
    if isOn then
      o.2 ++ List.replicate (16 - o.2.length) ' ' ++ (if isSet then "on".toList else "off".toList)
    else (if isSet then "set -o ".toList else "set +o ".toList) ++ o.2
  let lead := if isOn then "Current option settings\n".toList else []
  lead ++ Expansion.optionNames.flatMap fun o => line o ++ ['\n']

/-- Sets options by their letters, where the letter `o` asks for a name. -/
def setLetters (isOn : Bool) : Octets → List Octets → Run (List Octets)
  | [], ws => pure ws
  | 'o' :: more, [] => do
    let _ ← output "set".toList (optionListing isOn (← get))
    setLetters isOn more []
  | 'o' :: more, name :: ws => do
    match Expansion.optionNames.find? fun o => o.2 = name with
    | some (c, _) => if c ≠ '\x00' then setOption isOn c
    | none => Run.fail ("Illegal option -o ".toList ++ name)
    setLetters isOn more ws
  | c :: more, ws => do
    setOption isOn c
    setLetters isOn more ws

/-- Sets options and, if any words are left, the arguments. -/
def setWords : Nat → List Octets → Run Unit
  | 0, _ | _, [] => pure ()
  | fuel + 1, w :: ws => do
    let arguments (ws : List Octets) : Run Unit :=
      modify fun m => { m with arguments := ws, optionOffset := 0 }
    match w with
    | ['-'] =>
      modify fun m => { m with options := m.options.filter fun c => c ≠ 'x' && c ≠ 'v' }
      if ws ≠ [] then arguments ws
    | ['-', '-'] => arguments ws
    | '-' :: letters => setWords fuel (← setLetters true letters ws)
    | '+' :: letters => setWords fuel (← setLetters false letters ws)
    | w => arguments (w :: ws)

def settings (ws : List Octets) : Run Nat := do
  if ws = [] then output "set".toList (listing [] (·.value.isSome) (← get))
  else
    setWords ws.length ws
    return 0

/-! ### Options of the arguments -/

/-- What a search for an option found. -/
structure Found where
  /-- The letter, or what stands for a fault. -/
  letter : Char
  /-- What becomes of the argument of the option. -/
  argument : Option Octets
  index : Nat
  offset : Nat
  complaint : Octets := []
  isOver : Bool := false

/-- The next option among arguments, from an index (counted from one) on and inside a group
of letters from an offset on. -/
def nextOption (known : Octets) (words : List Octets) (index offset : Nat) : Found :=
  let isQuiet := known.head? = some ':'
  let group := (words[index - 2]?.getD []).drop offset
  let isInside := 2 ≤ index && offset ≠ 0 && group ≠ []
  let next := words[index - 1]?.getD []
  let done (index : Nat) : Found := ⟨'?', none, index, 0, [], true⟩
  let letters := if isInside then group else next.tail
  let index := if isInside then index else index + 1
  if !isInside && (next.head? ≠ some '-' || next.tail = []) then done (index - 1)
  else if !isInside && next = "--".toList then done index
  else
    match letters with
    | [] => done index
    | c :: rest =>
      let behind := (known.dropWhile (· ≠ c)).tail
      let offset (rest : Octets) : Nat :=
        if rest = [] then 0 else (words[index - 2]?.getD []).length - rest.length
      if c = ':' || c ∉ known then
        if isQuiet then ⟨'?', some [c], index, offset rest, [], false⟩
        else
          ⟨'?', none, index, offset rest, "Illegal option -".toList ++ c :: ['\n'], false⟩
      else if behind.head? = some ':' then
        if rest ≠ [] then ⟨c, some rest, index, 0, [], false⟩
        else
          match words[index - 1]? with
          | some a => ⟨c, some a, index + 1, 0, [], false⟩
          | none =>
            if isQuiet then ⟨':', some [c], index, 0, [], false⟩
            else
              ⟨'?', none, index, 0, "No arg for -".toList ++ c :: " option\n".toList, false⟩
      else ⟨c, some [], index, offset rest, [], false⟩

def getopts (ws : List Octets) : Run Nat := do
  match ws with
  | known :: name :: words =>
    let m ← get
    let words := if words = [] then m.arguments else words
    let index := ((((← Run.value? "OPTIND".toList).bind Octets.natural?)).getD 1)
    let found := nextOption known words (max index 1) m.optionOffset
    modify fun m => { m with toProcess := m.toProcess.tell 2 found.complaint }
    match found.argument with
    | some a => Run.assign "OPTARG".toList a
    | none => if !found.isOver then Run.setBinding "OPTARG".toList none
    Run.assign "OPTIND".toList (Octets.ofInt found.index)
    if isName name then Run.assign name [found.letter]
    else Run.fail (name ++ ": bad variable name".toList)
    modify fun m => { m with optionOffset := found.offset }
    return if found.isOver then 1 else 0
  | _ => Run.fail "Usage: getopts optstring var [arg...]".toList

end StyleSnapshot.Shell.Builtin
