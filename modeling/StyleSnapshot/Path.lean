import StyleSnapshot.Text.Basic

/-! Paths as texts.

A path keeps the spelling it was given. Its components are what its slashes separate;
empty components and single dots name nothing, except a dot at the very beginning of a
relative path, which stands for the directory itself. -/
namespace StyleSnapshot

/-- A path as it was given. -/
abbrev Path := Text

namespace Path

/-- Whether the path starts from the root. -/
def isAbsolute (p : Path) : Bool := p.head? = some '/'

/-- What a slash separates, in order. -/
def pieces (p : Path) : List Text := p.splitOn '/'

/-- A path seen from a base; an absolute path stays as it is. -/
def join (base p : Path) : Path :=
  if isAbsolute p then p
  else if base = [] ∨ base.getLast? = some '/' then base ++ p
  else base ++ '/' :: p

/-- Whether the piece at an index names a component of a relative or absolute path. -/
def isComponent (absolute : Bool) (piece : Text × Nat) : Bool :=
  piece.1 ≠ [] && (piece.1 ≠ ['.'] || (piece.2 = 0 && !absolute))

/-- The pieces up to the last that names a component. -/
def dropBlankTail (absolute : Bool) (pieces : List (Text × Nat)) : List (Text × Nat) :=
  (pieces.reverse.dropWhile fun piece => !isComponent absolute piece).reverse

/-- The path without its last component; there is none for the root and the empty path. -/
def parent? (p : Path) : Option Path :=
  let absolute := isAbsolute p
  let body := if absolute then p.tail else p
  match dropBlankTail absolute (pieces body).zipIdx with
  | [] => none
  | named =>
    let before := Text.join ['/'] ((dropBlankTail absolute named.dropLast).map (·.1))
    some (if absolute then '/' :: before else before)

end Path
end StyleSnapshot
