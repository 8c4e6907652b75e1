import StyleSnapshot.Shell.Arithmetic
import StyleSnapshot.Shell.Evaluator

/-! Expanding words.

Each part of a word is replaced by its value. What was not quoted is then split into
fields, and a field with wildcards is replaced by the names of the files it stands for, if
there are any. -/
namespace StyleSnapshot.Shell.Expansion

/-! ### Values -/

/-- The options with their letters, in the order in which they are listed. -/
def optionNames : List (Char × Octets) :=
  [('e', "errexit".toList), ('f', "noglob".toList), ('I', "ignoreeof".toList),
    ('i', "interactive".toList), ('m', "monitor".toList), ('n', "noexec".toList),
    ('s', "stdin".toList), ('x', "xtrace".toList), ('v', "verbose".toList),
    ('V', "vi".toList), ('E', "emacs".toList), ('C', "noclobber".toList),
    ('a', "allexport".toList), ('b', "notify".toList), ('u', "nounset".toList),
    ('p', "privileged".toList), ('\x00', "nolog".toList), ('\x00', "debug".toList)]

/-- The bytes that separate fields. -/
def separators (m : Machine) : Octets :=
  ((m.bindings.lookup "IFS".toList).bind (·.value)).getD Fields.separators

/-- What stands between arguments that are joined. Arguments that stay apart have the null
character between them. -/
def joint (m : Machine) (purpose : Purpose) (isEach isQuoted : Bool) : Octets :=
  if purpose = .fields && (isEach || !isQuoted) then ['\x00']
  else (separators m).take 1

/-- The value of a parameter, if it has one. -/
def value? (m : Machine) (purpose : Purpose) (isQuoted : Bool) (name : Octets) :
    Option Octets :=
  match name with
  | ['#'] => some (Octets.ofInt m.arguments.length)
  | ['?'] => some (Octets.ofInt m.status)
  | ['$'] => some (Octets.ofInt Machine.ownNumber)
  | ['!'] => m.lastJob.map fun n => Octets.ofInt n
  | ['-'] => some ((optionNames.map (·.1)).reverse.filter (· ∈ m.options))
  | ['@'] => some (Text.join (joint m purpose true isQuoted) m.arguments)
  | ['*'] => some (Text.join (joint m purpose false isQuoted) m.arguments)
  | ['0'] => some m.name
  | name =>
    match Octets.natural? name with
    | some 0 => some m.name
    | some (n + 1) => m.arguments[n]?
    | none => (m.bindings.lookup name).bind (·.value)

/-- What a value becomes in a word. -/
def ofValue (purpose : Purpose) (isQuoted : Bool) (t : Octets) : List Piece :=
  if isQuoted then
    ((t.splitOn '\x00').map fun part => .fixed (Marked.ofOctets true part)).intersperse .cut
  else if purpose = .fields then [.loose (Marked.ofOctets false t)]
  else [.fixed (Marked.ofOctets false t)]

/-! ### Directories at home -/

/-- The directory at home of a user; the user at hand has no name. -/
def home? (m : Machine) (user : Octets) : Option Octets :=
  if user = [] then (m.bindings.lookup "HOME".toList).bind (·.value)
  else if user = "root".toList then some "/root".toList
  else none

/-- A literal whose leading tilde may stand for a directory. The literal is whole if
nothing follows that belongs to it. -/
def atHome (m : Machine) (isWhole : Bool) (t : Octets) : List Piece :=
  let plain := [Piece.fixed (Marked.ofOctets false t)]
  match t with
  | '~' :: rest =>
    let user := rest.takeWhile (· ≠ '/')
    let behind := rest.drop user.length
    if behind = [] && !isWhole then plain
    else
      match home? m user with
      | some directory =>
        [.fixed (Marked.ofOctets true directory), .fixed (Marked.ofOctets false behind)]
      | none => plain
  | _ => plain

/-- A literal that was not quoted. In an assignment a colon may have a directory behind
it. -/
def ofLiteral (m : Machine) (purpose : Purpose) (isFirst isLast : Bool) (t : Octets) :
    List Piece :=
  let parts := if purpose = .assignment then t.splitOn ':' else [t]
  let expanded := parts.zipIdx.map fun (part, i) =>
    if i = 0 && !isFirst then [.fixed (Marked.ofOctets false part)]
    else atHome m (isLast || i + 1 < parts.length) part
  (expanded.intersperse [.fixed [(':', false)]]).flatten

/-! ### Arithmetic -/

/-- The number that a value writes. -/
def number (t : Octets) : Run Int := do
  if t.all Octets.isSpace then return 0
  match Octets.leadingInteger? 0 t with
  | some (n, rest) =>
    if rest.all Octets.isSpace && Octets.isWord n then return n
    else Run.fail ("Illegal number: ".toList ++ t)
  | none => Run.fail ("Illegal number: ".toList ++ t)

/-- The value of the expression that a text writes. -/
def arithmetic (t : Octets) : Run Int := do
  let give (reason : String) : Run Int :=
    Run.fail ("arithmetic expression: ".toList ++ reason.toList ++ ": \"".toList ++ t ++ ['"'])
  match Arithmetic.read t with
  | .error reason => give reason
  | .ok a =>
    a.value {
      get := fun name => do number ((← Run.value? name).getD [])
      set := fun name n => Run.assign name (Octets.ofInt n)
      divisionByZero := give "division by zero" }

/-! ### Parts -/

/-- Makes what was not quoted in a nested word subject to splitting. -/
def loosened (purpose : Purpose) : Piece → Piece
  | .fixed t =>
    if purpose = .fields && t ≠ [] && t.all (fun c => !c.2) then .loose t else .fixed t
  | p => p

/-- The text of a word that is kept together. -/
def text (e : Evaluator) (w : Word) : Run Octets :=
  return Marked.text (Fields.whole (← e.expand .text w))

/-- The pattern that a word writes. -/
def pattern (e : Evaluator) (w : Word) : Run Pattern :=
  return Pattern.ofMarked (Fields.whole (← e.expand .text w))

/-- Gives up if a parameter without value is an error. -/
def demandSet (name : Octets) (value : Option Octets) : Run Unit := do
  if value.isNone && 'u' ∈ (← get).options then Run.fail (name ++ ": parameter not set".toList)

/-- The pieces of a substitution. -/
def ofParameter (e : Evaluator) (purpose : Purpose) (name : Octets) (adjustment : Adjustment)
    (w : Word) (isQuoted : Bool) : Run (List Piece) := do
  let value := value? (← get) purpose isQuoted name
  let isMissing (emptyIsMissing : Bool) : Bool :=
    match value with
    | none => true
    | some t => emptyIsMissing && t = []
  let asIs : List Piece := ofValue purpose isQuoted (value.getD [])
  let nested : Run (List Piece) := do
    let ps ← e.expand purpose w
    return (if isQuoted then [.fixed []] else []) ++ ps.map (loosened purpose)
  match adjustment with
  | .plain =>
    demandSet name value
    if isQuoted && name = ['@'] && purpose = .fields && (← get).arguments = [] then return []
    else return asIs
  | .length =>
    demandSet name value
    return ofValue purpose isQuoted (Octets.ofInt (value.getD []).length)
  | .fallback emptyIsMissing => if isMissing emptyIsMissing then nested else return asIs
  | .alternative emptyIsMissing =>
    if isMissing emptyIsMissing then return ofValue purpose isQuoted [] else nested
  | .assign emptyIsMissing =>
    if isMissing emptyIsMissing then
      let t ← text e w
      if isName name then
        Run.assign name t
        return ofValue purpose isQuoted t
      else Run.fail (name ++ ": bad variable name".toList)
    else return asIs
  | .demand emptyIsMissing =>
    if isMissing emptyIsMissing then
      let t ← text e w
      let reason :=
        if w ≠ [] then t
        else if emptyIsMissing then "parameter not set or null".toList
        else "parameter not set".toList
      Run.fail (name ++ ": ".toList ++ reason)
    else return asIs
  | .trim atEnd longest =>
    demandSet name value
    let p ← pattern e w
    return ofValue purpose isQuoted (p.trim atEnd longest (value.getD []))
  | .malformed => Run.fail "Bad substitution".toList

/-- The pieces of a part, which may be the first or the last of its word. -/
def ofPart (e : Evaluator) (purpose : Purpose) (isFirst isLast : Bool) :
    Part → Run (List Piece)
  | .literal t true => return [.fixed (Marked.ofOctets true t)]
  | .literal t false => return ofLiteral (← get) purpose isFirst isLast t
  | .parameter name adjustment w isQuoted => ofParameter e purpose name adjustment w isQuoted
  | .output c isQuoted => return ofValue purpose isQuoted (← e.outputOf c)
  | .value w isQuoted => do
    return ofValue purpose isQuoted (Octets.ofInt (← arithmetic (← text e w)))

/-- The pieces of a word. -/
def ofWord (e : Evaluator) (purpose : Purpose) (w : Word) : Run (List Piece) := do
  let pieces ← w.zipIdx.mapM fun (p, i) => ofPart e purpose (i = 0) (i + 1 = w.length) p
  return pieces.flatten

/-! ### Fields -/

/-- The names in the directory that a path ends in. -/
def namesIn (m : Machine) (before : Octets) : List Octets :=
  let path := if before = [] then ['.'] else Octets.toText before
  match m.tree.locateFrom m.directory path with
  | .ok (place, .directory) =>
    ['.'] :: ['.', '.'] :: (m.tree.children place).map fun entry => Octets.ofText entry.name
  | .ok _ | .error _ => []

/-- The field itself, or the paths it stands for. -/
def paths (m : Machine) (field : Marked) : List Octets :=
  if 'f' ∈ m.options || !Pattern.isActive field then [field.text]
  else
    let isThere (path : Octets) : Bool :=
      (m.tree.locateFrom m.directory (Octets.toText path)).toOption.isSome
    match Pattern.paths (namesIn m) isThere [] (Pattern.components field) with
    | [] => [field.text]
    | found => Text.sort found

/-- The fields that a word stands for. -/
def fields (e : Evaluator) (w : Word) : Run (List Octets) := do
  let ps ← e.expand .fields w
  let m ← get
  return (Fields.split (separators m) ps).flatMap (paths m)

end StyleSnapshot.Shell.Expansion
