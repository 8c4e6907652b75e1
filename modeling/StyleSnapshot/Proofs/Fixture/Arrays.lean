import StyleSnapshot.Proofs.Fixture.Literals

/-! Arrays of tokens.

What looks for the end of an array knows escapes and templates, and what reads the tokens knows
neither. They agree as long as no token ends where its quote would be escaped: then a scan leaves a
token where the token ends (`walk_quotation`), and the separators close no brackets. So a scan goes
through the whole array (`closing?_tokenArray`) and what is read are its tokens
(`tokens_tokenArray`). -/
namespace StyleSnapshot.Fixture

open Text (backslashesAtEnd)

/-- A token between its quotes, the last of which no backslash hides. -/
structure QuotedToken where
  quote : Char
  token : Text
  isQuote : quote = '\'' ∨ quote = '"'
  closed : quote ∉ token
  unhidden : backslashesAtEnd token % 2 = 0

/-- What may stand between the tokens of an array. -/
structure Separator where
  text : Text
  unquoted : ∀ c ∈ text, c ∉ Marks.chars.quotes
  bare : '[' ∉ text ∧ ']' ∉ text

/-- The inside of an array: tokens, with separators between and around them. -/
structure TokenArray where
  lead : Separator
  entries : List (QuotedToken × Separator)

namespace TokenArray

def entryText (e : QuotedToken × Separator) : Text :=
  e.1.quote :: (e.1.token ++ e.1.quote :: e.2.text)

def text (a : TokenArray) : Text := a.lead.text ++ a.entries.flatMap entryText

def tokens (a : TokenArray) : List Text := a.entries.map (·.1.token)

end TokenArray

theorem QuotedToken.quote_mem (q : QuotedToken) : q.quote ∈ Marks.chars.quotes := by
  rcases q.isQuote with h | h <;>
    · rw [h]
      decide

/-! ### The end of the array -/

theorem walk_separator (s : Separator) (nested : Nat) :
    walk Marks.chars .square (.plain, nested) s.text = some (.plain, nested) := by
  apply walk_balances (by decide) s.unquoted
  exact balances_of_not_mem s.bare.1 s.bare.2

theorem walk_entries (entries : List (QuotedToken × Separator)) (nested : Nat) :
    walk Marks.chars .square (.plain, nested) (entries.flatMap TokenArray.entryText) =
      some (.plain, nested) := by
  induction entries with
  | nil => rfl
  | cons e entries ih =>
    obtain ⟨q, s⟩ := e
    have hentry : TokenArray.entryText (q, s) = q.quote :: (q.token ++ [q.quote]) ++ s.text := by
      simp [TokenArray.entryText]
    rw [List.flatMap_cons, hentry, walk_append, walk_append,
      walk_quotation q.quote_mem q.closed q.unhidden, Option.bind_some, walk_separator,
      Option.bind_some, ih]

/-- A scan goes through an array and is where it was. -/
theorem walk_tokenArray (a : TokenArray) (nested : Nat) :
    walk Marks.chars .square (.plain, nested) a.text = some (.plain, nested) := by
  unfold TokenArray.text
  rw [walk_append, walk_separator, Option.bind_some, walk_entries]

theorem closing?_tokenArray (a : TokenArray) (behind : Text) :
    closing? Marks.chars .square .plain 0 (a.text ++ ']' :: behind) = some a.text.length := by
  rw [closing?_append_of_walk (walk_tokenArray a 0)]
  rfl

/-! ### The tokens of the array -/

theorem tokensFrom_entries (entries : List (QuotedToken × Separator)) :
    tokensFrom none (entries.flatMap TokenArray.entryText) = entries.map (·.1.token) := by
  induction entries with
  | nil => rfl
  | cons e entries ih =>
    obtain ⟨q, s⟩ := e
    rw [List.flatMap_cons, TokenArray.entryText, List.cons_append, List.append_assoc,
      List.cons_append, tokensFrom_enclosed q.isQuote q.closed, tokensFrom_unquoted s.unquoted, ih]
    rfl

theorem tokens_tokenArray (a : TokenArray) : tokens a.text = a.tokens := by
  unfold tokens TokenArray.text
  rw [tokensFrom_unquoted a.lead.unquoted, tokensFrom_entries]
  rfl

end StyleSnapshot.Fixture
