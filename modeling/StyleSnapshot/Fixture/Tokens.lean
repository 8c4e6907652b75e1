import StyleSnapshot.Delimiter
import StyleSnapshot.Text.Blank

/-! The tokens of an array literal.

A token is what stands between two equal quotes, single or double, as it is written:
escapes are not resolved and other quotes are ordinary characters. What stands between
tokens does not matter, and a quote that is never closed begins no token. -/
namespace StyleSnapshot.Fixture

/-- Reads on, either between tokens or inside one: then with its quote and its
characters so far, last first. -/
def tokensFrom : Option (Char × Text) → Text → List Text
  | _, [] => []
  | none, c :: rest =>
    if c = '\'' || c = '"' then tokensFrom (some (c, [])) rest else tokensFrom none rest
  | some (quote, soFar), c :: rest =>
    if c = quote then soFar.reverse :: tokensFrom none rest
    else tokensFrom (some (quote, c :: soFar)) rest

/-- The tokens written in the inside of an array literal, in order. -/
def tokens (inside : Text) : List Text := tokensFrom none inside

/-- The inside of the first array literal that ends exactly `distance` characters on. -/
def arrayEndingAt? : Nat → Text → Option Text
  | 0, _ => none
  | _, [] => none
  | distance + 1, c :: rest =>
    if c = '[' ∧ closing? Marks.chars .square .plain 0 rest = some distance then
      some (rest.take distance)
    else arrayEndingAt? distance rest

/-- The inside of the array literal that is the last of some arguments, a trailing comma
aside. -/
def lastArray? (arguments : Text) : Option Text :=
  let tail := Text.trimEnd (Text.dropEndWhile (· = ',') (Text.trimEnd arguments))
  if tail.getLast? = some ']' then arrayEndingAt? (tail.length - 1) arguments else none

/-- The tokens of a themed call, given the text behind its opening parenthesis. -/
def themedTokens (t : Text) : List Text :=
  match closing? Marks.chars .round .plain 0 t with
  | none => []
  | some n => ((lastArray? (t.take n)).map tokens).getD []

end StyleSnapshot.Fixture
