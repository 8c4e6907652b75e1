import StyleSnapshot.Text.Blank

/-! The body of an inline snapshot as a fixture writes it.

A snapshot stands in a template literal: a backslash in front of a backslash, a backtick
or a dollar sign is an escape, and any other backslash is itself. The text so written is
usually quoted once more. -/
namespace StyleSnapshot.Snapshot

/-- The characters that a backslash escapes in a template literal. -/
def isEscapable (c : Char) : Bool := c = '\\' || c = '\x60' || c = '$'

/-- The text a template literal stands for. -/
def unescape : Text → Text
  | [] => []
  | [c] => [c]
  | c :: d :: rest =>
    if c = '\\' && isEscapable d then d :: unescape rest else c :: unescape (d :: rest)

/-- The trimmed text, without its double quotes when it both begins and ends with one. -/
def unquote (raw : Text) : Text :=
  let trimmed := Text.trim raw
  match trimmed with
  | '"' :: inner => if inner.getLast? = some '"' then inner.dropLast else trimmed
  | _ => trimmed

end StyleSnapshot.Snapshot
