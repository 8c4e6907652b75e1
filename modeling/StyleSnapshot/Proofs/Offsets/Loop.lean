import StyleSnapshot.Proofs.Offsets.Basic

/-! Loops whose rounds can fail.

A loop goes from state to state, until a round leaves it with a result. `Runs` says that no round
on the way has a fault, that each one gets on in the sense asked for, and which result the loop is
left with: since a round is a function of the state, the states named there are all that the loop
comes to. Such a run is found by an invariant of states and results together with a measure
(`runs_of_invariant`). Where a loop stands within a round of another one it is a function
(`loop`), which checks that each round leaves less and has the result of the run
(`Runs.loop_eq`). -/
namespace StyleSnapshot.Offsets

/-- What a round comes to. -/
inductive Outcome (σ ρ : Type) where
  /-- The loop goes on. -/
  | again (next : σ)
  /-- The loop is left. -/
  | done (result : ρ)
  deriving DecidableEq, Repr

section Rounds
variable {σ ρ : Type} (round : σ → Except Fault (Outcome σ ρ)) (Advances : σ → σ → Prop)

/-- Round by round a loop comes from a state to a result, and advances in every round. -/
inductive Runs : σ → ρ → Prop
  | done {s : σ} {result : ρ} : round s = .ok (.done result) → Runs s result
  | again {s next : σ} {result : ρ} : round s = .ok (.again next) → Advances s next →
      Runs next result → Runs s result

/-- The result of a loop in which every round has to leave less. -/
def loop (left : σ → Nat) (s : σ) : Except Fault ρ :=
  match round s with
  | .error fault => .error fault
  | .ok (.done result) => .ok result
  | .ok (.again next) => if left next < left s then loop left next else .error .stuck
termination_by left s

variable {round Advances}

/-- A loop whose rounds keep an invariant comes to the result that the invariant tells, if a round
that advances leaves less. -/
theorem runs_of_invariant {Holds : σ → ρ → Prop} (left : σ → Nat)
    (hleft : ∀ s next, Advances s next → left next < left s)
    (hround : ∀ s result, Holds s result → round s = .ok (.done result) ∨
      ∃ next, round s = .ok (.again next) ∧ Advances s next ∧ Holds next result)
    {s : σ} {result : ρ} (h : Holds s result) : Runs round Advances s result := by
  induction hn : left s using Nat.strongRecOn generalizing s with
  | ind n ih =>
    subst hn
    rcases hround s result h with hdone | ⟨next, hagain, hadvances, hnext⟩
    · exact .done hdone
    · exact .again hagain hadvances (ih (left next) (hleft s next hadvances) hnext rfl)

/-- The result of a run is that of the loop, if a round that advances leaves less. -/
theorem Runs.loop_eq {left : σ → Nat} (hleft : ∀ s next, Advances s next → left next < left s)
    {s : σ} {result : ρ} (h : Runs round Advances s result) : loop round left s = .ok result := by
  induction h with
  | done hdone => rw [loop, hdone]
  | again hagain hadvances _ ih =>
    rw [loop, hagain]
    simp only [if_pos (hleft _ _ hadvances), ih]

end Rounds

end StyleSnapshot.Offsets
