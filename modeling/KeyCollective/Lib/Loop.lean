import Mathlib.Data.Option.Basic

/-!
# Loops

A loop is its body: the next state, or none when it is left. A measure that every round
lowers bounds the rounds, and the loop ends from every state.
-/

namespace Loop

variable {S T : Type}

/-- The state a loop is left in, unless the rounds run out. -/
def run (body : S → Option S) : Nat → S → Option S
  | 0, _ => none
  | rounds + 1, s =>
    match body s with
    | none => some s
    | some next => run body rounds next

/-- The state a loop is left in when `measure` bounds its rounds. -/
def exit (body : S → Option S) (measure : S → Nat) (s : S) : S :=
  (run body (measure s + 1) s).getD s

/-- Every round lowers the measure. -/
def Decreases (body : S → Option S) (measure : S → Nat) : Prop :=
  ∀ s next, body s = some next → measure next < measure s

variable {body : S → Option S} {measure : S → Nat}

/-- A loop with enough rounds ends, in a state its body leaves. -/
theorem Decreases.run (decreases : Decreases body measure) {rounds : Nat} {s : S}
    (enough : measure s < rounds) : ∃ t, Loop.run body rounds s = some t ∧ body t = none := by
  induction rounds generalizing s with
  | zero => exact absurd enough (Nat.not_lt_zero _)
  | succ rounds ih =>
    rw [Loop.run]
    cases found : body s with
    | none => exact ⟨s, rfl, found⟩
    | some next =>
      have lower := decreases s next found
      exact ih (by omega)

/-- More rounds than the loop needs change nothing. -/
theorem Decreases.run_eq (decreases : Decreases body measure) {rounds more : Nat} {s : S}
    (enough : measure s < rounds) (also : measure s < more) :
    Loop.run body rounds s = Loop.run body more s := by
  induction rounds generalizing s more with
  | zero => exact absurd enough (Nat.not_lt_zero _)
  | succ rounds ih =>
    cases more with
    | zero => exact absurd also (Nat.not_lt_zero _)
    | succ more =>
      rw [Loop.run, Loop.run]
      cases found : body s with
      | none => rfl
      | some next =>
        have lower := decreases s next found
        exact ih (by omega) (by omega)

theorem Decreases.exit_spec (decreases : Decreases body measure) (s : S) :
    Loop.run body (measure s + 1) s = some (exit body measure s) ∧
      body (exit body measure s) = none := by
  obtain ⟨t, ran, left⟩ := decreases.run (Nat.lt_succ_self (measure s))
  rw [exit, ran]
  exact ⟨rfl, left⟩

theorem exit_none {s : S} (left : body s = none) : exit body measure s = s := by
  rw [exit, Loop.run, left]
  rfl

theorem Decreases.exit_some (decreases : Decreases body measure) {s next : S}
    (found : body s = some next) : exit body measure s = exit body measure next := by
  have lower := decreases s next found
  have same := decreases.run_eq lower (Nat.lt_succ_self (measure next))
  obtain ⟨t, ran, -⟩ := decreases.run lower
  rw [exit, Loop.run, found, exit, ← same]
  simp only [ran, Option.getD_some]

/-- A loop that makes every round of another goes on where the other is left. -/
theorem Decreases.exit_exit (decreases : Decreases body measure) {longer : S → Option S}
    (also : Decreases longer measure)
    (extend : ∀ s next, body s = some next → longer s = some next) (s : S) :
    exit longer measure (exit body measure s) = exit longer measure s := by
  induction bound : measure s using Nat.strongRecOn generalizing s with
  | ind size ih =>
    cases found : body s with
    | none => rw [exit_none found]
    | some next =>
      have lower := decreases s next found
      rw [decreases.exit_some found, also.exit_some (extend s next found)]
      exact ih (measure next) (bound ▸ lower) next rfl

/-- Where a change of the state before a round is the change after it, it can be made before
the loop or where the loop is left, if the loop then goes on. -/
theorem Decreases.exit_change (decreases : Decreases body measure) {change : S → S}
    (commutes : ∀ s next, body s = some next → body (change s) = some (change next)) (s : S) :
    exit body measure (change (exit body measure s)) = exit body measure (change s) := by
  induction bound : measure s using Nat.strongRecOn generalizing s with
  | ind size ih =>
    cases found : body s with
    | none => rw [exit_none found]
    | some next =>
      have lower := decreases s next found
      rw [decreases.exit_some found, decreases.exit_some (commutes s next found)]
      exact ih (measure next) (bound ▸ lower) next rfl

end Loop
