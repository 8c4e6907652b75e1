import StyleSnapshot.Path
import StyleSnapshot.Text.Decode

/-! A tree of files.

The files a command works on are a value: a list of places with their contents. A place is
the list of names that lead to it from the root. A directory exists where it is listed
and above everything that is; a few directories and programs belong to the system and are
always there. Paths are followed name by name, from the root or from the directory at
hand, and what stands in the way is the cause of an error. -/
namespace StyleSnapshot

/-- The names that lead to a place from the root. -/
abbrev Location := List Text

inductive FileContent where
  | file (bytes : List UInt8)
  | directory
  /-- A device that is always empty and takes whatever is written. -/
  | device
  /-- A program of the system. -/
  | program
  deriving DecidableEq, Repr

structure FileTree where
  places : List (Location × FileContent)
  /-- The files that may be executed. -/
  executables : List Location := []
  deriving DecidableEq, Repr

/-- Why a file or a directory cannot be used, or a program cannot be started. -/
inductive AccessError where
  | notFound
  | denied
  | present
  | notDirectory
  | isDirectory
  | nameTooLong
  | notEmpty
  /-- The content is no text. -/
  | notUtf8
  /-- A path holds the null character. -/
  | nullInPath
  /-- The name or an argument of a program holds the null character. -/
  | nullInCommand
  deriving DecidableEq, Repr

namespace AccessError

def reason : AccessError → Text
  | .notFound => "No such file or directory".toList
  | .denied => "Permission denied".toList
  | .present => "File exists".toList
  | .notDirectory => "Not a directory".toList
  | .isDirectory => "Is a directory".toList
  | .nameTooLong => "File name too long".toList
  | .notEmpty => "Directory not empty".toList
  | .notUtf8 => "stream did not contain valid UTF-8".toList
  | .nullInPath => "file name contained an unexpected NUL byte".toList
  | .nullInCommand => "nul byte found in provided data".toList

/-- The number the system gives the error, if it is one of the system's. -/
def number? : AccessError → Option Nat
  | .notFound => some 2
  | .denied => some 13
  | .present => some 17
  | .notDirectory => some 20
  | .isDirectory => some 21
  | .nameTooLong => some 36
  | .notEmpty => some 39
  | .notUtf8 | .nullInPath | .nullInCommand => none

def message (e : AccessError) : Text :=
  match e.number? with
  | some n => e.reason ++ " (os error ".toList ++ Text.ofNat n ++ [')']
  | none => e.reason

end AccessError

namespace FileTree

/-! ### What is where -/

/-- The directory in which commands are started. -/
def workplace : Location := ["work".toList]

/-- The names of the programs in the directories for programs. -/
def programNames : List Text :=
  ["sh".toList, "[".toList, "base64".toList, "basename".toList, "cat".toList, "chmod".toList,
    "comm".toList, "cp".toList, "cut".toList, "dash".toList, "dirname".toList, "echo".toList,
    "egrep".toList, "env".toList, "expr".toList, "false".toList, "fgrep".toList, "fold".toList,
    "grep".toList, "head".toList, "ls".toList, "mkdir".toList, "mktemp".toList, "mv".toList,
    "nl".toList, "nohup".toList, "od".toList, "paste".toList, "printenv".toList, "printf".toList,
    "pwd".toList, "rev".toList, "rm".toList, "rmdir".toList, "sed".toList, "seq".toList,
    "sleep".toList, "sort".toList, "sync".toList, "tac".toList, "tail".toList, "tee".toList,
    "test".toList, "timeout".toList, "touch".toList, "tr".toList, "true".toList, "uniq".toList,
    "wc".toList, "xargs".toList, "yes".toList]

/-- The directories for programs, in the order in which they are searched. -/
def programDirectories : List Location := [["usr".toList, "bin".toList], ["bin".toList]]

/-- Directories that are always there. -/
def systemDirectories : List Location :=
  [[], workplace, ["dev".toList], ["etc".toList], ["home".toList], ["lib".toList],
    ["opt".toList], ["proc".toList], ["root".toList], ["run".toList], ["sbin".toList],
    ["sys".toList], ["tmp".toList], ["usr".toList], ["var".toList]] ++ programDirectories

/-- What the system has at a place. -/
def systemContent? (place : Location) : Option FileContent :=
  if place ∈ systemDirectories then some .directory
  else if place = ["dev".toList, "null".toList] then some .device
  else
    match place.getLast? with
    | some name =>
      if place.dropLast ∈ programDirectories ∧ name ∈ programNames then some .program else none
    | none => none

/-- What is left of a place below a directory. -/
def below? (directory place : Location) : Option Location :=
  match directory, place with
  | [], place => some place
  | _ :: _, [] => none
  | a :: directory, b :: place => if a = b then below? directory place else none

/-- What is at a place. -/
def content? (tree : FileTree) (place : Location) : Option FileContent :=
  match tree.places.lookup place with
  | some content => some content
  | none =>
    if tree.places.any fun entry => (below? place entry.1).isSome then some .directory
    else systemContent? place

/-- A name in a directory. -/
structure Listed where
  name : Text
  /-- Whether a regular file, not a directory, bears the name. -/
  isFile : Bool
  deriving DecidableEq, Repr

/-- The names in the directory at a place, each once. -/
def children (tree : FileTree) (place : Location) : List Listed :=
  let system := systemDirectories ++ [["dev".toList, "null".toList]]
  let names := (tree.places.map (·.1) ++ system).filterMap fun entry =>
    (below? place entry).bind (·.head?)
  names.eraseDups.map fun name =>
    ⟨name, match tree.content? (place ++ [name]) with
      | some (.file _) => true
      | some .directory | some .device | some .program | none => false⟩

/-! ### Following paths -/

/-- The longest name, and the length from which on a path is too long, in bytes. -/
def longestName : Nat := 255
def pathBound : Nat := 4096

/-- Follows the pieces of a path from a place that exists. The last name may be new if
`mayBeNew` says so. -/
def follow (tree : FileTree) (mayBeNew : Bool) (place : Location) :
    List Text → Except AccessError Location
  | [] => .ok place
  | piece :: more =>
    if tree.content? place ≠ some .directory then .error .notDirectory
    else if piece = [] ∨ piece = ['.'] then follow tree mayBeNew place more
    else if piece = ['.', '.'] then follow tree mayBeNew place.dropLast more
    else if longestName < Text.byteLength piece then .error .nameTooLong
    else
      let next := place ++ [piece]
      if (tree.content? next).isSome then follow tree mayBeNew next more
      else if mayBeNew && more.all (· = []) then .ok next
      else .error .notFound

/-- The place that a path leads to from a directory. -/
def placeOf (tree : FileTree) (mayBeNew : Bool) (directory : Location) (p : Path) :
    Except AccessError Location :=
  if '\x00' ∈ p then .error .nullInPath
  else if pathBound ≤ Text.byteLength p then .error .nameTooLong
  else if p = [] then .error .notFound
  else follow tree mayBeNew (if Path.isAbsolute p then [] else directory) (Path.pieces p)

/-- The place at the end of a path and what is there. -/
def locateFrom (tree : FileTree) (directory : Location) (p : Path) :
    Except AccessError (Location × FileContent) :=
  match tree.placeOf false directory p with
  | .error e => .error e
  | .ok place =>
    match tree.content? place with
    | some content => .ok (place, content)
    | none => .error .notFound

/-- The bytes of a file, seen from a directory. -/
def readBytesFrom (tree : FileTree) (directory : Location) (p : Path) :
    Except AccessError (List UInt8) :=
  match tree.locateFrom directory p with
  | .error e => .error e
  | .ok (_, .directory) => .error .isDirectory
  | .ok (_, .file bytes) => .ok bytes
  | .ok (_, .device) | .ok (_, .program) => .ok []

/-! ### Reading from the working directory -/

/-- The bytes of a file. -/
def readBytes (tree : FileTree) (p : Path) : Except AccessError (List UInt8) :=
  tree.readBytesFrom workplace p

/-- The text of a file. -/
def readText (tree : FileTree) (p : Path) : Except AccessError Text :=
  match tree.readBytes p with
  | .error e => .error e
  | .ok bytes =>
    match Text.decode? bytes with
    | some t => .ok t
    | none => .error .notUtf8

/-- Whether a path leads to a regular file. -/
def isFile (tree : FileTree) (p : Path) : Bool :=
  match tree.locateFrom workplace p with
  | .ok (_, .file _) => true
  | .ok (_, _) | .error _ => false

/-- The names in a directory. -/
def readDirectory (tree : FileTree) (p : Path) : Except AccessError (List Listed) :=
  match tree.locateFrom workplace p with
  | .error e => .error e
  | .ok (place, .directory) => .ok (tree.children place)
  | .ok (_, _) => .error .notDirectory

/-! ### Changes -/

/-- The tree with new content at a place. -/
def put (tree : FileTree) (place : Location) (content : FileContent) : FileTree :=
  { tree with places := (place, content) :: tree.places.filter (·.1 ≠ place) }

/-- The tree without a place and everything below it. The directory above stays. -/
def remove (tree : FileTree) (place : Location) : FileTree :=
  let kept : FileTree :=
    { places := tree.places.filter fun entry => (below? place entry.1).isNone
      executables := tree.executables.filter fun entry => (below? place entry).isNone }
  if (kept.content? place.dropLast).isSome then kept else kept.put place.dropLast .directory

/-- The tree of files in the working directory, each given by a relative path. -/
def ofFiles (files : List (Path × FileContent)) : FileTree :=
  files.foldl (fun tree file =>
      tree.put (workplace ++ (Path.pieces file.1).filter fun piece => piece ≠ [] && piece ≠ ['.'])
        file.2)
    ⟨[], []⟩

end FileTree
end StyleSnapshot
