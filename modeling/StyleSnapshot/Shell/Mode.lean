import StyleSnapshot.Shell.Octets

/-! Permissions of files as numbers and as texts.

A mode is a number of nine bits, three each for the owner, for the group and for others.
A text changes a mode by clauses: whose bits, how, and which. -/
namespace StyleSnapshot.Shell.Mode

/-- The three octal digits of a mode. -/
def digits (mode : Nat) : Octets :=
  [mode / 64, mode / 8 % 8, mode % 8].map fun n => Char.ofNat (48 + n)

/-- The mode that octal digits write. -/
def ofDigits? (t : Octets) : Option Nat :=
  if t.all fun c => '0' ≤ c && c ≤ '7' then some (t.foldl (fun n c => n * 8 + (c.toNat - 48)) 0)
  else none

/-- The permissions of each class in letters. -/
def letters (mode : Nat) : Octets :=
  let granted (n : Nat) : Octets :=
    (if n.testBit 2 then ['r'] else []) ++ (if n.testBit 1 then ['w'] else []) ++
      if n.testBit 0 then ['x'] else []
  "u=".toList ++ granted (mode / 64) ++ ",g=".toList ++ granted (mode / 8 % 8) ++
    ",o=".toList ++ granted (mode % 8)

/-- The bits of the classes that letters name. -/
def classes (whose : Octets) : Nat :=
  whose.foldl (fun n c =>
    Nat.lor n (if c = 'u' then 0o700 else if c = 'g' then 0o070 else if c = 'o' then 0o007
      else 0o777)) 0

/-- The bits that letters name, for all classes. -/
def bits (mode : Nat) (what : Octets) : Nat :=
  what.foldl (fun n c =>
    let shared (n : Nat) : Nat := n * 0o111
    Nat.lor n (
      if c = 'r' then 0o444
      else if c = 'w' then 0o222
      else if c = 'x' then 0o111
      else if c = 'X' then (if Nat.land mode 0o111 = 0 then 0 else 0o111)
      else if c = 'u' then shared (mode / 64)
      else if c = 'g' then shared (mode / 8 % 8)
      else if c = 'o' then shared (mode % 8)
      else 0)) 0

/-- Applies the actions of a clause to the bits of some classes. -/
def act? (whose : Nat) : Nat → Octets → Nat → Option Nat
  | 0, _, _ => none
  | fuel + 1, t, mode =>
    match t with
    | [] => some mode
    | sign :: rest =>
      if sign ∈ "+-=".toList then
        let what := rest.takeWhile (· ∈ "rwxXstugo".toList)
        let chosen := Nat.land whose (bits mode what)
        let kept := if sign = '=' then Nat.land mode (0o777 - whose) else mode
        let next := if sign = '-' then Nat.land mode (0o777 - chosen) else Nat.lor kept chosen
        act? whose fuel (rest.drop what.length) next
      else none

/-- The mode that a text makes of another one. Where a clause names no classes the bits of a
mask stay as they are. -/
def change? (mask : Nat) (t : Octets) (mode : Nat) : Option Nat :=
  (t.splitOn ',').foldlM (fun mode clause =>
    let whose := clause.takeWhile (· ∈ "ugoa".toList)
    let actions := clause.drop whose.length
    let reach := if whose = [] then 0o777 - mask else classes whose
    if actions = [] then none else act? reach (actions.length + 1) actions mode) mode

end StyleSnapshot.Shell.Mode
