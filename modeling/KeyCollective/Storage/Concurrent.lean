import KeyCollective.Lib.Interleaving
import KeyCollective.Lib.Transition
import KeyCollective.Storage.Reconciliation

/-!
# Concurrent recordings and reconciliations

A recording is one batch. A reconciliation reads the aggregate and rewrites the rollup in a
batch of its own, and other calls run between the two.
-/

namespace KeyCollective.CostLedgerRepository

open Interleaving

inductive Phase where
  /-- Before the first statement. -/
  | starting
  /-- The aggregate was read, and the batch is next. -/
  | rewriting (dayStr : String) (rows : List ReconcileRollupDbRow)
  | returned
  | threw (failure : CostLedgerFailure)
deriving DecidableEq

inductive Operation where
  | recordEventWithRollup (call : RecordCall)
  | reconcileDailyRollupFromLedger (tenantId : String) (day : DateInput)

structure Call where
  operation : Operation
  phase : Phase

def Call.finished (call : Call) : Bool :=
  match call.phase with
  | .returned | .threw _ => true
  | _ => false

section

variable [DateParser] [NumberText]

/-- The next statement or batch of a call. -/
def advance (db : CostLedgerDb) (call : Call) : CostLedgerDb × Call :=
  match call.phase, call.operation with
  | .starting, .recordEventWithRollup recording =>
    match recordEventWithRollup db recording.input recording.uuid recording.now with
    | .ok (after, _) => (after, { call with phase := .returned })
    | .error e => (db, { call with phase := .threw e })
  | .starting, .reconcileDailyRollupFromLedger tenantId day =>
    match selectAggregate db tenantId day with
    | .ok (dayStr, rows) => (db, { call with phase := .rewriting dayStr rows })
    | .error e => (db, { call with phase := .threw e })
  | .rewriting dayStr rows, .reconcileDailyRollupFromLedger tenantId _ =>
    match rewriteRollup db tenantId dayStr rows with
    | .ok (after, _) => (after, { call with phase := .returned })
    | .error e => (db, { call with phase := .threw e })
  | _, _ => (db, call)

/-- A reconciliation whose statements follow each other is `reconcileDailyRollupFromLedger`. -/
theorem reconcile_eq (db : CostLedgerDb) (tenantId : String) (day : DateInput) :
    let selected := advance db ⟨.reconcileDailyRollupFromLedger tenantId day, .starting⟩
    (advance selected.1 selected.2).1 = afterReconcile db tenantId day := by
  simp only [advance, afterReconcile, reconcileDailyRollupFromLedger]
  cases selectAggregate db tenantId day with
  | error e => rfl
  | ok read =>
    obtain ⟨dayStr, rows⟩ := read
    simp only [bind, Except.bind]
    cases rewriteRollup db tenantId dayStr rows with
    | error e => rfl
    | ok rewritten => rfl

end

/-- The tokens of an input add up to a number without rounding. -/
def exactTokens (input : CostLedgerEventInput) : Bool :=
  match count input.promptTokens, count input.completionTokens, count input.reasoningTokens with
  | some prompt, some completion, some reasoning =>
    numberOfBigInt (numberOfBigInt (prompt + completion) + reasoning) =
      prompt + completion + reasoning
  | _, _, _ => true

/-- When a reconciliation rewrites the rollup, the rows it read are still the aggregate of the
ledger. When an event is recorded, its tokens add up without rounding. -/
def undisturbed (sys : System CostLedgerDb Call) (i : Nat) : Bool :=
  match sys.processes[i]? with
  | some ⟨.recordEventWithRollup recording, .starting⟩ => exactTokens recording.input
  | some ⟨.reconcileDailyRollupFromLedger tenantId _, .rewriting dayStr rows⟩ =>
    decide (Current sys.shared (trim tenantId) dayStr rows)
  | _ => true

theorem Recording.exact {input : CostLedgerEventInput} {row : CostLedgerDbRow}
    {excluded : DailySpendRollup} (recording : Recording input row excluded)
    (exact : exactTokens input = true) : totalTokens row.event = row.tokens := by
  rw [exactTokens, recording.prompt, recording.completion, recording.reasoning] at exact
  exact of_decide_eq_true exact

section

variable [DateParser] [NumberText] {sys : System CostLedgerDb Call} {i : Nat}

/-- What an undisturbed call does next leaves the rollup in agreement with the ledger. -/
theorem advance_agrees (agrees : sys.shared.Agrees) {call : Call}
    (present : sys.processes[i]? = some call) (alone : undisturbed sys i = true) :
    (advance sys.shared call).1.Agrees := by
  rw [undisturbed, present] at alone
  obtain ⟨operation, phase⟩ := call
  cases phase with
  | starting =>
    cases operation with
    | recordEventWithRollup recording =>
      simp only [advance]
      split
      case h_2 => exact agrees
      case h_1 after row ok =>
        obtain ⟨excluded, recorded, fresh, rfl⟩ := recordEventWithRollup_ok ok
        have increment : excluded.totals = row.amounts := by
          rw [DailySpendRollup.totals, recorded.requests, recorded.tokens, recorded.exact alone,
            recorded.cost]
          rfl
        rw [CostLedgerDb.agrees_iff] at agrees ⊢
        exact fun k => record_tallies (agrees k) recorded.keyed increment fresh
    | reconcileDailyRollupFromLedger tenantId day =>
      simp only [advance]
      split
      case h_1 | h_2 => exact agrees
  | rewriting dayStr rows =>
    cases operation with
    | recordEventWithRollup recording => exact agrees
    | reconcileDailyRollupFromLedger tenantId day =>
      simp only [advance]
      split
      case h_1 after reconciled ok => exact rewrite_agrees agrees (of_decide_eq_true alone) ok
      case h_2 => exact agrees
  | returned => exact agrees
  | threw failure => exact agrees

theorem step_agrees (agrees : sys.shared.Agrees) (alone : undisturbed sys i = true) :
    (step advance sys i).shared.Agrees := by
  cases present : sys.processes[i]? with
  | none =>
    rw [step_none present]
    exact agrees
  | some call =>
    rw [step_some present]
    exact advance_agrees agrees present alone

/-- However recordings and reconciliations interleave, the rollup agrees with the ledger in
every state, as long as no reconciliation writes rows that are out of date. -/
theorem rollup_agrees (db : CostLedgerDb) (agrees : db.Agrees) (calls : List Call)
    (schedule : List Nat)
    (run : Transition.Guarded (step advance) (fun sys i => undisturbed sys i = true) ⟨db, calls⟩
      schedule) :
    ∀ sys ∈ Transition.reached (step advance) ⟨db, calls⟩ schedule, sys.shared.Agrees :=
  Transition.invariant_of_guarded
    (I := fun sys : System CostLedgerDb Call => sys.shared.Agrees)
    (fun _ _ kept alone => step_agrees kept alone) agrees run

end

/-! ## A recording and a reconciliation of its day -/

theorem agrees_empty : CostLedgerDb.empty.Agrees where
  rows _ mem := absurd mem List.not_mem_nil
  events _ mem := absurd mem List.not_mem_nil

def acmePair : List Call :=
  [⟨.reconcileDailyRollupFromLedger "acme" (.text "1970-01-02"), .starting⟩,
    ⟨.recordEventWithRollup ⟨acmeInput, "evt_1", secondDay⟩, .starting⟩]

section

attribute [local instance] isoDates integerText

/-- The recording is done before the reconciliation reads. -/
theorem rollup_agrees_acme :
    ([1, 0, 0].foldl (step advance) ⟨CostLedgerDb.empty, acmePair⟩).shared.Agrees :=
  rollup_agrees CostLedgerDb.empty agrees_empty acmePair [1, 0, 0] (by decide) _
    (Transition.foldl_mem_reached _ _ _)

/-- The recording is between the reconciliation's `SELECT` and its batch, which deletes the
event's row. -/
theorem recording_overwritten :
    let sys := [0, 1, 0].foldl (step advance) ⟨CostLedgerDb.empty, acmePair⟩
    (∀ call ∈ sys.processes, call.finished = true) ∧ ¬ sys.shared.Agrees := by
  intro sys
  have finished : ∀ call ∈ sys.processes, call.finished = true := by decide
  have stored : sys.shared.ledger.values ≠ [] := by decide
  have deleted : sys.shared.rollup.values = [] := by decide
  refine ⟨finished, fun agrees => ?_⟩
  obtain ⟨event, mem⟩ := List.exists_mem_of_ne_nil _ stored
  obtain ⟨rollup, ⟨present, -⟩, -⟩ := agrees.events event mem
  rw [deleted] at present
  exact List.not_mem_nil present

end

end KeyCollective.CostLedgerRepository
