import StyleSnapshot.Shell.Tool.Print

/-! Programs about files and directories. -/
namespace StyleSnapshot.Shell.Tool

/-- The place that a path leads to, and what is there. -/
def locate (path : Octets) : Tool (Except AccessError (Location × FileContent)) := do
  let p ← get
  return p.tree.locateFrom p.directory (Octets.toText path)

/-- The place that a path leads to, where the last name may be new. -/
def placeFor (path : Octets) : Tool (Except AccessError Location) := do
  let p ← get
  return p.tree.placeOf true p.directory (Octets.toText path)

def changeTree (f : FileTree → FileTree) : Tool Unit :=
  modify fun p => { p with tree := f p.tree }

/-- Does something for each operand; the status tells whether all went well. -/
def forEach (paths : List Octets) (step : Octets → Tool Bool) : Tool Nat :=
  paths.foldlM (fun status path => do return if ← step path then status else 1) 0

/-- Says why something could not be done with a path. -/
def refuse (action path : Octets) (e : AccessError) : Tool Bool := do
  complain (action ++ ' ' :: Quoted.word path ++ ": ".toList ++ Octets.ofText e.reason)
  return false

/-! ### Making and removing -/

/-- The paths of the directories above a path, the outermost first, and the path. -/
def prefixes (path : Octets) : List Octets :=
  ((path.splitOn '/').foldl (fun (done, soFar) piece =>
    let next := match soFar with
      | none => piece
      | some t => t ++ '/' :: piece
    (if piece = [] then done else next :: done, some next)) ([], (none : Option Octets))).1.reverse

def makeDirectory (withParents : Bool) (path : Octets) : Tool Bool := do
  let make (path : Octets) : Tool (Option AccessError) := do
    match ← placeFor path with
    | .error e => return some e
    | .ok place =>
      match (← get).tree.content? place with
      | some .directory => return if withParents then none else some .present
      | some _ => return some .present
      | none =>
        changeTree (·.put place .directory)
        return none
  let steps := if withParents then prefixes path else [path]
  let failures ← steps.mapM make
  match failures.findSome? id with
  | none => return true
  | some e =>
    complain ("cannot create directory ".toList ++ quoted path ++ ": ".toList ++
      Octets.ofText e.reason)
    return false

def mkdir (ws : List Octets) : Tool Nat := do
  let p ← parsed
    { letters := "pv", withArgument := "m", long := [⟨"parents", 'p', false⟩, ⟨"mode", 'm', true⟩] }
    ws
  if p.operands = [] then misuse 1 "missing operand".toList
  forEach p.operands (makeDirectory (p.has 'p'))

def rmdir (ws : List Octets) : Tool Nat := do
  let p ← parsed { letters := "pv" } ws
  if p.operands = [] then misuse 1 "missing operand".toList
  forEach p.operands fun path => do
    match ← locate path with
    | .error e => refuse "failed to remove".toList path e
    | .ok (place, .directory) =>
      if (← get).tree.children place = [] then
        changeTree (·.remove place)
        return true
      else refuse "failed to remove".toList path .notEmpty
    | .ok _ => refuse "failed to remove".toList path .notDirectory

def rm (ws : List Octets) : Tool Nat := do
  let p ← parsed
    { letters := "rRfidv"
      long := [⟨"recursive", 'r', false⟩, ⟨"force", 'f', false⟩, ⟨"dir", 'd', false⟩] } ws
  if p.operands = [] && !p.has 'f' then misuse 1 "missing operand".toList
  forEach p.operands fun path => do
    match ← locate path with
    | .error .notFound =>
      if p.has 'f' then return true else refuse "cannot remove".toList path .notFound
    | .error e =>
      if p.has 'f' && e = .notDirectory then return true
      else refuse "cannot remove".toList path e
    | .ok (place, .directory) =>
      let last := lastComponent path
      if !(p.has 'r' || p.has 'R') then
        if p.has 'd' && (← get).tree.children place = [] then
          changeTree (·.remove place)
          return true
        else refuse "cannot remove".toList path (if p.has 'd' then .notEmpty else .isDirectory)
      else if last = ['.'] || last = "..".toList then
        complain ("refusing to remove '.' or '..' directory: skipping ".toList ++ Quoted.word path)
        return false
      else
        changeTree (·.remove place)
        return true
    | .ok (place, _) =>
      changeTree (·.remove place)
      return true

def touch (ws : List Octets) : Tool Nat := do
  let p ← parsed { letters := "acmf", withArgument := "dtr" } ws
  if p.operands = [] then misuse 1 "missing file operand".toList
  forEach p.operands fun path => do
    match ← placeFor path with
    | .error e => refuse "cannot touch".toList path e
    | .ok place =>
      if ((← get).tree.content? place).isNone && !p.has 'c' then
        changeTree (·.put place (.file []))
      return true

/-! ### Copying and moving -/

/-- The tree with everything at or below a place also at or below another one. -/
def copyTree (source target : Location) (tree : FileTree) : FileTree :=
  let found := tree.places.filterMap fun (place, content) =>
    (FileTree.below? source place).map fun rest => (target ++ rest, content)
  let scripts := tree.executables.filterMap fun place =>
    (FileTree.below? source place).map (target ++ ·)
  let all := found.reverse.foldl (fun tree (place, content) => tree.put place content) tree
  { all with executables := scripts ++ all.executables }

/-- Where a file goes: into a directory under its own name, or under a new name. -/
def destination (source target : Octets) : Tool (Octets × Except AccessError Location) := do
  let path := if ← isDirectory target then
      (if target.getLast? = some '/' then target else target ++ ['/']) ++ lastComponent source
    else target
  return (path, ← placeFor path)

/-- The sources and the target among operands. -/
def sourcesAndTarget (operands : List Octets) : Tool (List Octets × Octets) := do
  match operands.reverse with
  | [] => misuse 1 "missing file operand".toList
  | [a] => misuse 1 ("missing destination file operand after ".toList ++ Quoted.word a)
  | target :: sources =>
    if 1 < sources.length && !(← isDirectory target) then
      fail 1 ("target ".toList ++ Quoted.word target ++
        (if (← locate target).toOption.isSome then ": Not a directory".toList
          else ": No such file or directory".toList))
    return (sources.reverse, target)

def cp (ws : List Octets) : Tool Nat := do
  let p ← parsed
    { letters := "rRafpinuv"
      long := [⟨"recursive", 'r', false⟩, ⟨"archive", 'a', false⟩, ⟨"force", 'f', false⟩] } ws
  let (sources, target) ← sourcesAndTarget p.operands
  let isDeep := p.has 'r' || p.has 'R' || p.has 'a'
  forEach sources fun source => do
    match ← locate source with
    | .error e => refuse "cannot stat".toList source e
    | .ok (place, content) =>
      if content = .directory && !isDeep then
        complain ("-r not specified; omitting directory ".toList ++ Quoted.word source)
        return false
      match ← destination source target with
      | (path, .error e) => refuse "cannot create regular file".toList path e
      | (path, .ok target) =>
        if target = place then
          complain (Quoted.word source ++ " and ".toList ++ Quoted.word path ++ " are the same file".toList)
          return false
        else if content = .directory then
          changeTree (copyTree place target)
          return true
        else
          let bytes := match content with
            | .file bytes => bytes
            | _ => []
          changeTree fun tree =>
            let tree := tree.put target (.file bytes)
            if place ∈ tree.executables then
              { tree with executables := target :: tree.executables }
            else tree
          return true

def mv (ws : List Octets) : Tool Nat := do
  let p ← parsed { letters := "finuv", long := [⟨"force", 'f', false⟩] } ws
  let (sources, target) ← sourcesAndTarget p.operands
  forEach sources fun source => do
    match ← locate source with
    | .error e => refuse "cannot stat".toList source e
    | .ok (place, _) =>
      match ← destination source target with
      | (path, .error e) =>
        complain ("cannot move ".toList ++ Quoted.word source ++ " to ".toList ++ Quoted.word path ++
          ": ".toList ++ Octets.ofText e.reason)
        return false
      | (path, .ok target) =>
        if target = place then
          complain (Quoted.word source ++ " and ".toList ++ Quoted.word path ++ " are the same file".toList)
          return false
        else
          changeTree fun tree => (copyTree place target (tree.remove target)).remove place
          return true

/-! ### Modes -/

/-- Whether a mode makes files executable, makes them not executable, or neither. -/
def executableBy? (mode : Octets) : Option (Option Bool) :=
  if mode ≠ [] && mode.all (fun c => '0' ≤ c && c ≤ '7') then
    some (some (mode.any fun c => (c.toNat - 48) % 2 = 1))
  else
    let clauses := mode.splitOn ','
    let isClause (t : Octets) : Bool :=
      let rest := t.dropWhile fun c => c ∈ "ugoa".toList
      rest.head?.any (fun c => c ∈ "+-=".toList) && rest.tail.all fun c => c ∈ "rwxXst".toList
    if clauses.all isClause then
      let reading (t : Octets) : Option Bool :=
        let rest := t.dropWhile fun c => c ∈ "ugoa".toList
        if 'x' ∈ rest then some (rest.head? ≠ some '-')
        else if rest.head? = some '=' then some false
        else none
      some ((clauses.filterMap reading).getLast?)
    else none

def chmod (ws : List Octets) : Tool Nat := do
  -- A mode may begin with a minus sign, like an option.
  let (mode?, ws) := match ws with
    | ('-' :: m) :: more =>
      if m ≠ [] && m.all (fun c => c ∈ "rwxXst".toList) then (some ('-' :: m), more) else (none, ws)
    | ws => (none, ws)
  let p ← parsed { letters := "Rvfc", long := [⟨"recursive", 'R', false⟩] } ws
  let (mode, paths) ← match mode?, p.operands with
    | some mode, paths => pure (mode, paths)
    | none, [] => misuse 1 "missing operand".toList
    | none, [mode] => misuse 1 ("missing operand after ".toList ++ quoted mode)
    | none, mode :: paths => pure (mode, paths)
  match executableBy? mode with
  | none => misuse 1 ("invalid mode: ".toList ++ quoted mode)
  | some change =>
    forEach paths fun path => do
      match ← locate path with
      | .error e => refuse "cannot access".toList path e
      | .ok (place, content) =>
        match content, change with
        | .file _, some isOn =>
          changeTree fun tree =>
            let others := tree.executables.filter (· ≠ place)
            { tree with executables := if isOn then place :: others else others }
        | _, _ => pure ()
        return true

/-! ### Listing -/

/-- How names are listed. -/
structure ListStyle where
  showsAll : Bool := false
  showsHidden : Bool := false
  isReverse : Bool := false
  /-- Whether a sign tells directories, and perhaps programs, from other files. -/
  marksDirectories : Bool := false
  marksPrograms : Bool := false
  /-- What stands between the names of one directory. -/
  separator : Octets := ['\n']

namespace ListStyle

def ofOptions (p : Parsed) : ListStyle where
  showsAll := p.has 'a'
  showsHidden := p.has 'A' || p.has 'a'
  isReverse := p.has 'r'
  marksDirectories := p.has 'p' || p.has 'F'
  marksPrograms := p.has 'F'
  separator :=
    match (p.options.reverse.find? fun o => o.1 ∈ "1mxC".toList).map (·.1) with
    | some 'm' => ", ".toList
    | some 'x' | some 'C' => "  ".toList
    | _ => ['\n']

/-- A name with the sign of what bears it. -/
def marked (s : ListStyle) (tree : FileTree) (place : Location) (name : Octets) : Octets :=
  match tree.content? place with
  | some .directory => if s.marksDirectories then name ++ ['/'] else name
  | some (.file _) =>
    if s.marksPrograms && tree.executables.contains place then name ++ ['*'] else name
  | some .program => if s.marksPrograms then name ++ ['*'] else name
  | some .device | none => name

/-- The names in a directory that are shown. -/
def names (s : ListStyle) (tree : FileTree) (place : Location) : List (Octets × Location) :=
  let entries := (tree.children place).map fun entry =>
    (Octets.ofText entry.name, place ++ [entry.name])
  let entries := if s.showsAll then
      (['.'], place) :: ("..".toList, place.dropLast) :: entries
    else entries
  let entries := if s.showsHidden then entries else entries.filter fun e => e.1.head? ≠ some '.'
  let sorted := entries.mergeSort fun a b => !decide (b.1 < a.1)
  if s.isReverse then sorted.reverse else sorted

def block (s : ListStyle) (tree : FileTree) (entries : List (Octets × Location)) : Octets :=
  if entries = [] then []
  else Text.join s.separator (entries.map fun (name, place) => s.marked tree place name) ++ ['\n']

/-- The names in a directory and, if so many levels are wanted, in those below it. -/
def listing (s : ListStyle) (tree : FileTree) (showsName : Bool) :
    (levels : Nat) → Octets → Location → List Octets
  | 0, path, place =>
    [(if showsName then path ++ ":\n".toList else []) ++ s.block tree (s.names tree place)]
  | levels + 1, path, place =>
    let entries := s.names tree place
    let below := entries.filter fun (name, place) =>
      name ≠ ['.'] && name ≠ "..".toList && tree.content? place = some .directory
    (path ++ ":\n".toList ++ s.block tree entries) ::
      below.flatMap fun (name, place) => listing s tree true levels (path ++ '/' :: name) place

end ListStyle

def ls (ws : List Octets) : Tool Nat := do
  let p ← parsed
    { letters := "1aAdrRtFphCxmSUcukwqvN"
      long := [⟨"all", 'a', false⟩, ⟨"almost-all", 'A', false⟩, ⟨"directory", 'd', false⟩,
        ⟨"reverse", 'r', false⟩, ⟨"recursive", 'R', false⟩], status := 2 } ws
  let s := ListStyle.ofOptions p
  let paths := if p.operands = [] then [['.']] else p.operands
  let found ← paths.mapM fun path => do return (path, ← locate path)
  let mut status := 0
  for (path, r) in found do
    match r with
    | .error e =>
      let _ ← refuse "cannot access".toList path e
      status := 2
    | .ok _ => pure ()
  let tree := (← get).tree
  let there := found.filterMap fun (path, r) => match r with
    | .ok (place, content) => some (path, place, decide (content = .directory) && !p.has 'd')
    | .error _ => none
  let order (rows : List (Octets × Location × Bool)) : List (Octets × Location) :=
    let sorted := rows.mergeSort fun a b => !decide (b.1 < a.1)
    (if p.has 'r' then sorted.reverse else sorted).map fun r => (r.1, r.2.1)
  let files := order (there.filter fun r => !r.2.2)
  let directories := order (there.filter fun r => r.2.2)
  let levels := if p.has 'R' then 100 else 0
  let listings := directories.flatMap fun (path, place) =>
    s.listing tree (paths.length ≠ 1) levels path place
  print (Text.join ['\n'] ((if files = [] then [] else [s.block tree files]) ++ listings))
  return status

/-! ### Temporary files -/

def mktemp (ws : List Octets) : Tool Nat := do
  let p ← parsed
    { letters := "dqtu", withArgument := "p", long := [⟨"directory", 'd', false⟩] } ws
  let template := p.operands.headD "/tmp/tmp.XXXXXXXXXX".toList
  let marks := (template.reverse.takeWhile (· = 'X')).length
  if marks < 3 then fail 1 ("too few X's in template ".toList ++ quoted template)
  let stem := template.take (template.length - marks)
  let name (n : Nat) : Octets :=
    let digits := Octets.ofInt n
    stem ++ List.replicate (marks - digits.length) '0' ++ digits
  let p' ← get
  let isFree (path : Octets) : Bool :=
    (p'.tree.locateFrom p'.directory (Octets.toText path)).toOption.isNone
  let path := ((List.range 1000).map name |>.find? isFree).getD template
  match ← placeFor path with
  | .error e =>
    complain ("failed to create file via template ".toList ++ quoted template ++ ": ".toList ++
      Octets.ofText e.reason)
    return 1
  | .ok place =>
    if !p.has 'u' then
      changeTree (·.put place (if p.has 'd' then .directory else .file []))
    print (path ++ ['\n'])
    return 0

end StyleSnapshot.Shell.Tool
