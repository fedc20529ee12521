import KeyCollective.Lib.Interleaving
import KeyCollective.Worker.Billing

/-!
# Concurrent spends on a token

`recordSpend` reads a token's row and writes the new spend back in a statement of its own.
Other calls run between the two.
-/

namespace KeyCollective.Spending

open Interleaving

inductive Phase where
  /-- Before the `SELECT`. -/
  | selecting
  /-- The row was found, and the `UPDATE` is next. -/
  | updating (existing : TokenRow)
  | returned (newSpent : Int)
  | threw (error : RepositoryError)
deriving DecidableEq

structure SpendCall where
  id : String
  tenantId : String
  spendMicrodollars : Int
  phase : Phase
deriving DecidableEq

namespace SpendCall

variable (call : SpendCall)

/-- The checks before the first statement, and that statement. -/
def select (books : Books) : Phase :=
  if call.spendMicrodollars < 0 then .threw (.typeError "spendMicrodollars cannot be negative")
  else
    match books.findById call.id call.tenantId with
    | .error e => .threw e
    | .ok none =>
      .threw (.authentication s!"Token '{call.id}' not found for tenant '{call.tenantId}'")
    | .ok (some existing) => .updating existing

/-- `UPDATE auth_tokens SET spent_microdollars = ? WHERE id = ? AND tenant_id = ?`. -/
def update (books : Books) (newSpent : Int) : Books :=
  match books.tokens.get? (trim call.id) with
  | some row =>
    if row.tenantId = trim call.tenantId then
      { books with tokens := books.tokens.set { row with
          spentMicrodollars := numberOfBigInt newSpent } }
    else books
  | none => books

end SpendCall

/-- The next statement of a call. -/
def advance (books : Books) (call : SpendCall) : Books × SpendCall :=
  match call.phase with
  | .selecting => (books, { call with phase := call.select books })
  | .updating existing =>
    let newSpent := existing.spentMicrodollars + call.spendMicrodollars
    (call.update books newSpent, { call with phase := .returned newSpent })
  | .returned _ | .threw _ => (books, call)

/-- A call whose statements follow each other is `recordSpend`. -/
theorem recordSpend_eq (books : Books) (call : SpendCall) (starts : call.phase = .selecting) :
    let selected := (advance books call).2
    (advance books selected).1 =
      ((books.recordSpend call.id call.tenantId call.spendMicrodollars).toOption).getD books := by
  simp only [advance, starts, SpendCall.select, Books.recordSpend]
  by_cases negative : call.spendMicrodollars < 0
  · simp only [if_pos negative]
    rfl
  · simp only [if_neg negative]
    cases found : books.findById call.id call.tenantId with
    | error e => rfl
    | ok existing =>
      cases existing with
      | none => rfl
      | some row =>
        obtain ⟨-, -, stored, owned⟩ := Books.findById_ok.mp found
        simp only [SpendCall.update, stored, if_pos owned]
        rfl

/-! ## What the calls on one token leave -/

namespace SpendCall

/-- The call is on the token of the row, with an amount that is not negative. -/
structure On (row : TokenRow) (call : SpendCall) : Prop where
  named : call.id ≠ ""
  tenant : trim call.tenantId ≠ ""
  token : trim call.id = row.id
  owned : row.tenantId = trim call.tenantId
  amount : 0 ≤ call.spendMicrodollars

def hasReturned (call : SpendCall) : Bool :=
  match call.phase with
  | .returned _ => true
  | _ => false

/-- The amount of a call that has returned. -/
def spent (call : SpendCall) : Int := if call.hasReturned then call.spendMicrodollars else 0

end SpendCall

/-- When the call writes, the stored spend is still what it read, and the sum is an integer
that a number holds exactly. -/
def undisturbed (sys : System Books SpendCall) (i : Nat) : Bool :=
  match sys.processes[i]? with
  | none => true
  | some call =>
    match call.phase with
    | .updating existing =>
      sys.shared.spentBy (trim call.id) = existing.spentMicrodollars ∧
        isSafeInteger (existing.spentMicrodollars + call.spendMicrodollars) = true
    | _ => true

/-- The token's row has the amounts of the calls that have returned. -/
structure Sound (row : TokenRow) (amounts : List Int) (sys : System Books SpendCall) : Prop where
  on : ∀ call ∈ sys.processes, call.On row
  amounts : sys.processes.map SpendCall.spendMicrodollars = amounts
  stored : sys.shared.tokens.get? row.id =
    some { row with
      spentMicrodollars := row.spentMicrodollars + (sys.processes.map SpendCall.spent).sum }

variable {row : TokenRow} {amounts : List Int} {sys : System Books SpendCall} {i : Nat}

theorem select_spent (books : Books) (call : SpendCall) :
    ({ call with phase := call.select books } : SpendCall).spent = 0 := by
  have waits : ({ call with phase := call.select books } : SpendCall).hasReturned = false := by
    unfold SpendCall.select
    split
    case isTrue => rfl
    case isFalse =>
      cases books.findById call.id call.tenantId with
      | error e => rfl
      | ok existing => cases existing <;> rfl
  rw [SpendCall.spent, waits]
  rfl

theorem advance_call (books : Books) (call : SpendCall) :
    ∃ phase, (advance books call).2 = { call with phase } := by
  unfold advance
  split <;> exact ⟨_, rfl⟩

theorem SpendCall.On.advance {call : SpendCall} (on : call.On row) (books : Books) :
    (advance books call).2.On row := by
  obtain ⟨phase, next⟩ := advance_call books call
  rw [next]
  exact ⟨on.named, on.tenant, on.token, on.owned, on.amount⟩

/-- Writing to a token whose row is there stores the new spend in it. -/
theorem SpendCall.On.update {call : SpendCall} (on : call.On row) {books : Books} {spent : Int}
    (stored : books.tokens.get? row.id = some { row with spentMicrodollars := spent })
    (newSpent : Int) (safe : isSafeInteger newSpent = true) :
    (call.update books newSpent).tokens.get? row.id =
      some { row with spentMicrodollars := newSpent } := by
  rw [SpendCall.update, on.token, stored]
  simp only [on.owned, ↓reduceIte, numberOfBigInt_of_safe safe, IndexedMap.get?_set]

theorem undisturbed_updating {call : SpendCall} {existing : TokenRow}
    (alone : undisturbed sys i = true) (present : sys.processes[i]? = some call)
    (phase : call.phase = .updating existing) :
    sys.shared.spentBy (trim call.id) = existing.spentMicrodollars ∧
      isSafeInteger (existing.spentMicrodollars + call.spendMicrodollars) = true := by
  rw [undisturbed, present] at alone
  simp only [phase] at alone
  exact of_decide_eq_true alone

theorem Sound.step (sound : Sound row amounts sys) (alone : undisturbed sys i = true) :
    Sound row amounts (Interleaving.step advance sys i) where
  on := forall_step sound.on fun call _ on => on.advance _
  amounts := by
    rw [map_step SpendCall.spendMicrodollars, sound.amounts]
    intro books call
    obtain ⟨phase, next⟩ := advance_call books call
    rw [next]
  stored := by
    cases present : sys.processes[i]? with
    | none =>
      rw [step_none present]
      exact sound.stored
    | some call =>
      rw [step_some present]
      have total := sum_set SpendCall.spent present (q := (advance sys.shared call).2)
      have on := sound.on call (List.mem_of_getElem? present)
      have stored := sound.stored
      cases phase : call.phase with
      | selecting =>
        have before : call.spent = 0 := by simp [SpendCall.spent, SpendCall.hasReturned, phase]
        simp only [advance, phase, select_spent, before, add_zero] at total ⊢
        rw [total]
        exact stored
      | updating existing =>
        have before : call.spent = 0 := by simp [SpendCall.spent, SpendCall.hasReturned, phase]
        have after : (advance sys.shared call).2.spent = call.spendMicrodollars := by
          simp [advance, phase, SpendCall.spent, SpendCall.hasReturned]
        rw [after, before, add_zero] at total
        obtain ⟨current, safe⟩ := undisturbed_updating alone present phase
        rw [Books.spentBy, on.token, stored] at current
        change _ + _ = existing.spentMicrodollars at current
        rw [total, ← add_assoc, current]
        simp only [advance, phase]
        exact on.update stored _ safe
      | returned newSpent =>
        simp only [advance, phase] at total ⊢
        rw [add_right_cancel total]
        exact stored
      | threw e =>
        simp only [advance, phase] at total ⊢
        rw [add_right_cancel total]
        exact stored

theorem Sound.finished (sound : Sound row amounts sys)
    (returned : ∀ call ∈ sys.processes, call.hasReturned = true) :
    sys.shared.spentBy row.id = row.spentMicrodollars + amounts.sum := by
  have all : sys.processes.map SpendCall.spent = amounts := by
    rw [← sound.amounts]
    exact List.map_congr_left fun call mem => if_pos (returned call mem)
  rw [Books.spentBy, sound.stored, all]

/-- Calls on one token whose writes find the spend they read lose nothing, in any order of
their statements. -/
theorem no_lost_spend (books : Books) (row : TokenRow)
    (stored : books.tokens.get? row.id = some row) (calls : List SpendCall)
    (on : ∀ call ∈ calls, call.On row) (start : ∀ call ∈ calls, call.phase = .selecting)
    (schedule : List Nat)
    (run : Transition.Guarded (step advance) (fun sys i => undisturbed sys i = true)
      ⟨books, calls⟩ schedule) :
    ∀ sys ∈ Transition.reached (step advance) ⟨books, calls⟩ schedule,
      (∀ call ∈ sys.processes, call.hasReturned = true) →
        sys.shared.spentBy row.id =
          row.spentMicrodollars + (calls.map SpendCall.spendMicrodollars).sum := by
  have nothing : (calls.map SpendCall.spent).sum = 0 := by
    refine List.sum_eq_zero fun spent mem => ?_
    obtain ⟨call, called, rfl⟩ := List.mem_map.mp mem
    simp [SpendCall.spent, SpendCall.hasReturned, start call called]
  have sound : Sound row (calls.map SpendCall.spendMicrodollars) ⟨books, calls⟩ :=
    ⟨on, rfl, by rw [nothing, add_zero]; exact stored⟩
  intro sys mem returned
  exact (Transition.invariant_of_guarded (fun _ _ sound ok => sound.step ok) sound run sys
    mem).finished returned

def acmeToken : TokenRow := ⟨"tok_1", "acme", 10⟩

def acmeBooks : Books := ⟨[], IndexedMap.empty.set acmeToken⟩

def acmeSpends : List SpendCall := [⟨"tok_1", "acme", 5, .selecting⟩, ⟨"tok_1", "acme", 3, .selecting⟩]

/-- One after the other. -/
theorem no_lost_spend_acme :
    ([0, 0, 1, 1].foldl (step advance) ⟨acmeBooks, acmeSpends⟩).shared.spentBy "tok_1" = 18 :=
  no_lost_spend acmeBooks acmeToken (by decide) acmeSpends
    (by
      intro call mem
      fin_cases mem
      · exact ⟨by decide, by decide, by decide, by decide, by decide⟩
      · exact ⟨by decide, by decide, by decide, by decide, by decide⟩)
    (by decide) [0, 0, 1, 1] (by decide) _ (Transition.foldl_mem_reached _ _ _) (by decide)

/-- Both read the row before either writes. -/
theorem spend_lost :
    ([0, 1, 0, 1].foldl (step advance) ⟨acmeBooks, acmeSpends⟩).shared.spentBy "tok_1" = 13 := by
  decide

end KeyCollective.Spending
