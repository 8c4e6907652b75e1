import StyleSnapshot.Toml.Value

/-! Dates and times of a TOML document.

A date has four digits for the year and two each for month and day; a time of day has two
each for hour, minute and second, perhaps with a fraction of the second. Behind a date,
a `T` or one space joins a time, and behind both may stand the distance from universal
time. Every number has to be in its range, and the day has to exist. -/
namespace StyleSnapshot.Toml

/-- The number that exactly `count` decimal digits write. -/
def digitField? : Nat → Nat → Text → Option (Nat × Text)
  | 0, soFar, t => some (soFar, t)
  | _ + 1, _, [] => none
  | n + 1, soFar, c :: rest =>
    if c.isDigit then digitField? n (10 * soFar + (c.toNat - 48)) rest else none

/-- Two digits that write a number within bounds. -/
def pair? (low high : Nat) (t : Text) : Option (Nat × Text) :=
  (digitField? 2 0 t).filter fun r => low ≤ r.1 && r.1 ≤ high

/-- The text behind a character that has to stand here. -/
def after? (c : Char) (t : Text) : Option Text := Text.after? [c] t

def isLeapYear (year : Nat) : Bool := year % 4 = 0 && (year % 100 ≠ 0 || year % 400 = 0)

def daysIn (year month : Nat) : Nat :=
  if month = 2 then (if isLeapYear year then 29 else 28)
  else if month = 4 || month = 6 || month = 9 || month = 11 then 30
  else 31

/-- The text behind a date. -/
def afterDate? (t : Text) : Option Text := do
  let (year, behind) ← digitField? 4 0 t
  let (month, behind) ← pair? 1 12 (← after? '-' behind)
  let (day, behind) ← pair? 1 31 (← after? '-' behind)
  if day ≤ daysIn year month then some behind else none

/-- The text behind a time of day. The second may be a leap second. -/
def afterTime? (t : Text) : Option Text := do
  let (_, behind) ← pair? 0 23 t
  let (_, behind) ← pair? 0 59 (← after? ':' behind)
  let (_, behind) ← pair? 0 60 (← after? ':' behind)
  match behind with
  | '.' :: c :: rest => if c.isDigit then some (rest.dropWhile Char.isDigit) else none
  | _ => some behind

/-- The text behind the distance from universal time, if one is given. -/
def afterOffset? (t : Text) : Option Text :=
  match t with
  | [] => some []
  | c :: rest =>
    if c = 'Z' || c = 'z' then some rest
    else if c = '+' || c = '-' then do
      let (_, behind) ← pair? 0 23 rest
      let (_, behind) ← pair? 0 59 (← after? ':' behind)
      some behind
    else none

def isDate (word : Text) : Bool := afterDate? word = some []

def isTime (word : Text) : Bool := afterTime? word = some []

/-- Whether a word writes a time of day, perhaps with a distance from universal time. -/
def isZonedTime (word : Text) : Bool := (afterTime? word).bind afterOffset? = some []

/-- Whether a word writes a date and a time joined by a letter. -/
def isDateTime (word : Text) : Bool :=
  match afterDate? word with
  | some (c :: rest) => (c = 'T' || c = 't') && isZonedTime rest
  | _ => false

/-- A date, a time or both. -/
def moment? (word : Text) : Option Value :=
  if isDate word || isTime word || isDateTime word then some (.moment word) else none

end StyleSnapshot.Toml
