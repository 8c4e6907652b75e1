import StyleSnapshot.Text.Basic

/-! Sets of code points given by ascending ranges.

Each range names its first and its last member. A look-up halves the table until no
range is left, so a table of a thousand ranges costs ten comparisons. -/
namespace StyleSnapshot.Ranges

/-- Looks among the ranges from `low` up to, but not including, `high`. -/
def search (table : Array (Nat × Nat)) (n : Nat) : Nat → Nat → Nat → Bool
  | 0, _, _ => false
  | fuel + 1, low, high =>
    if low < high then
      let middle := (low + high) / 2
      match table[middle]? with
      | none => false
      | some (first, last) =>
        if n < first then search table n fuel low middle
        else if last < n then search table n fuel (middle + 1) high
        else true
    else false

/-- Whether `n` lies in one of the ranges. Each step shortens the stretch that is left,
so as many steps as there are ranges always suffice. -/
def holds (table : Array (Nat × Nat)) (n : Nat) : Bool :=
  search table n (table.size + 1) 0 table.size

end StyleSnapshot.Ranges
