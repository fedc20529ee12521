import KeyCollective.Storage.TokenTable
import KeyCollective.Worker.Spend

/-!
# The spends of the vault

A run of the vault whose calls all record spends is a run of `Spending`, which knows of a row
what a spend reads. Looking for another tenant's row is a statement of its own here, and part
of the selection there: the owners of the rows do not change between the two.
-/

namespace KeyCollective.TokenVault

open Aes
open Interleaving (Event System)
open Spending (SpendCall)

/-! ## Rows -/

/-- What a spend reads of a row. -/
def StoredToken.spendRow (row : StoredToken) : TokenRow := ⟨row.id, row.tenantId, row.spentMicrodollars⟩

/-- The books have the rows of the vault. -/
def SameTokens (tokens : TokenTable) (books : Books) : Prop :=
  ∀ id, books.tokens.get? id = (tokens.get? id).map StoredToken.spendRow

def owner (tokens : TokenTable) (id : String) : Option String :=
  (tokens.get? (trim id)).map fun row => row.tenantId

variable {tokens : TokenTable} {books : Books} {id tenantId : String} {spentMicrodollars : Int}

theorem selectRow_none : selectRow tokens id none = tokens.get? (trim id) := by
  rw [selectRow]
  cases tokens.get? (trim id) <;> rfl

theorem selectRow_tenant {row : StoredToken} (found : tokens.get? (trim id) = some row) :
    selectRow tokens id (some tenantId) =
      if row.tenantId = trim tenantId then some row else none := by
  rw [selectRow, found, Option.filter_some]
  simp only [Option.all_some, decide_eq_true_eq]

/-- A write of a spend changes what the row has spent. -/
theorem run_spent :
    (Write.spent spentMicrodollars).run tokens id (some tenantId) =
      match tokens.get? (trim id) with
      | some row =>
        if row.tenantId = trim tenantId then tokens.set { row with spentMicrodollars } else tokens
      | none => tokens := by
  unfold Write.run
  cases found : tokens.get? (trim id) with
  | none =>
    rw [selectRow, found]
    rfl
  | some row =>
    rw [selectRow_tenant found]
    by_cases ours : row.tenantId = trim tenantId
    · rw [if_pos ours]
      exact (if_pos ours).symm
    · rw [if_neg ours]
      exact (if_neg ours).symm

theorem owner_spent (other : String) :
    owner ((Write.spent spentMicrodollars).run tokens id (some tenantId)) other =
      owner tokens other := by
  rw [run_spent]
  cases found : tokens.get? (trim id) with
  | none => rfl
  | some row =>
    dsimp only
    split_ifs with ours
    · obtain ⟨-, named⟩ := IndexedMap.get?_some found
      have key : StoredToken.key { row with spentMicrodollars } = trim id := named
      rw [owner, owner, IndexedMap.get?_set, key]
      split_ifs with same
      · rw [← same, found]
        rfl
      · rfl
    · rfl

/-- The `UPDATE` of the vault and that of the books. -/
theorem SameTokens.spent {call : SpendCall} (same : SameTokens tokens books) (newSpent : Int) :
    SameTokens ((Write.spent (numberOfBigInt newSpent)).run tokens call.id (some call.tenantId))
      (call.update books newSpent) := by
  rw [run_spent, SpendCall.update, same (trim call.id)]
  cases tokens.get? (trim call.id) with
  | none => exact same
  | some row =>
    simp only [Option.map_some, StoredToken.spendRow]
    split_ifs with ours
    · intro other
      rw [IndexedMap.get?_set, IndexedMap.get?_set, same other]
      change (if row.id = other then _ else _) = Option.map _ (if row.id = other then _ else _)
      split_ifs <;> rfl
    · exact same

/-! ## Calls -/

/-- The error of the repository a failure is. -/
inductive SameFailure : TokenFailure → RepositoryError → Prop
  | tenantIsolation (message : String) :
      SameFailure (.tenantIsolation message) (.tenantIsolation message)
  | typeError (message : String) : SameFailure (.typeError message) (.typeError message)
  | authentication (message reason : String) :
      SameFailure (.authentication message reason) (.authentication message)

/-- What a spend throws whose tenant has no row under the id. -/
def unfound (tokens : TokenTable) (id tenantId : String) : RepositoryError :=
  match owner tokens id with
  | none => .authentication s!"Token '{id}' not found for tenant '{tenantId}'"
  | some _ => .tenantIsolation
    s!"Token '{id}' belongs to another tenant. Cross-tenant access forbidden."

/-- The phases of a call of the vault and of a spend. -/
inductive SamePhase (tokens : TokenTable) (id tenantId : String) (spendMicrodollars : Int) :
    Phase → Spending.Phase → Prop
  | starting : SamePhase tokens id tenantId spendMicrodollars .starting .selecting
  | writing (existing : TokenRow) :
      SamePhase tokens id tenantId spendMicrodollars
        (.writing (.spent (numberOfBigInt (existing.spentMicrodollars + spendMicrodollars))))
        (.updating existing)
  | crossing (stranger : owner tokens id ≠ some (trim tenantId)) :
      SamePhase tokens id tenantId spendMicrodollars .crossing (.threw (unfound tokens id tenantId))
  | returned (newSpent : Int) :
      SamePhase tokens id tenantId spendMicrodollars .returned (.returned newSpent)
  | threw {failure : TokenFailure} {error : RepositoryError} (same : SameFailure failure error) :
      SamePhase tokens id tenantId spendMicrodollars (.threw failure) (.threw error)

variable {κ : Type}

structure SameCall (tokens : TokenTable) (call : Call κ) (spend : SpendCall) : Prop where
  operation : call.operation = .recordSpend spend.id spend.tenantId spend.spendMicrodollars
  phase : SamePhase tokens spend.id spend.tenantId spend.spendMicrodollars call.phase spend.phase

/-- The run of the spends is where the vault is. -/
structure Simulates (world : World κ) (sys : System Books SpendCall) : Prop where
  tokens : SameTokens world.shared.tokens sys.shared
  calls : List.Forall₂ (SameCall world.shared.tokens) world.processes sys.processes

/-- A phase is one with all rows that have the same owners. -/
theorem SamePhase.kept {kept : TokenTable} {spendMicrodollars : Int} {phase : Phase}
    {spending : Spending.Phase}
    (same : SamePhase tokens id tenantId spendMicrodollars phase spending)
    (owners : ∀ id, owner kept id = owner tokens id) :
    SamePhase kept id tenantId spendMicrodollars phase spending := by
  cases same with
  | starting => exact .starting
  | writing existing => exact .writing existing
  | crossing stranger =>
    have thrown : unfound tokens id tenantId = unfound kept id tenantId := by
      rw [unfound, unfound, owners]
    rw [thrown]
    exact .crossing (owners id ▸ stranger)
  | returned newSpent => exact .returned newSpent
  | threw same => exact .threw same

/-! ## Statements -/

/-- What a spend finds when it looks for its row. -/
theorem findById_eq (same : SameTokens tokens books) {call : SpendCall} (named : call.id ≠ "")
    (tenant : trim call.tenantId ≠ "") :
    books.findById call.id call.tenantId =
      match tokens.get? (trim call.id) with
      | none => .ok none
      | some row =>
        if row.tenantId = trim call.tenantId then .ok (some row.spendRow)
        else .error (unfound tokens call.id call.tenantId) := by
  rw [Books.findById, if_neg named, if_neg tenant, same]
  cases found : tokens.get? (trim call.id) with
  | none => rfl
  | some row =>
    simp only [Option.map_some, unfound, owner, found]
    rfl

/-- The selection of a spend whose amount passes. -/
theorem select_spend (vault : Vault κ) (call : SpendCall) (passes : ¬call.spendMicrodollars < 0) :
    select vault (.recordSpend call.id call.tenantId call.spendMicrodollars) =
      if call.id = "" then
        .threw (.authentication s!"Token '{call.id}' not found for tenant '{call.tenantId}'"
          "invalid_token")
      else if trim call.tenantId = "" then .threw emptyTenant
      else
        match selectRow vault.tokens call.id (some call.tenantId) with
        | some existing => .writing (.spent (numberOfBigInt
          (existing.spentMicrodollars + call.spendMicrodollars)))
        | none => .crossing := by
  have checked : Operation.amountFailure
      (.recordSpend call.id call.tenantId call.spendMicrodollars : Operation κ) = none :=
    if_neg passes
  rw [select, checked]
  rfl

theorem select_same {vault : Vault κ} (same : SameTokens vault.tokens books) (call : SpendCall) :
    SamePhase vault.tokens call.id call.tenantId call.spendMicrodollars
      (select vault (.recordSpend call.id call.tenantId call.spendMicrodollars))
      (call.select books) := by
  by_cases negative : call.spendMicrodollars < 0
  · rw [SpendCall.select, if_pos negative, select, Operation.amountFailure, if_pos negative]
    exact .threw (.typeError _)
  rw [select_spend vault call negative, SpendCall.select, if_neg negative]
  by_cases unnamed : call.id = ""
  · rw [if_pos unnamed, Books.findById, if_pos unnamed]
    exact .threw (.authentication _ _)
  by_cases homeless : trim call.tenantId = ""
  · rw [if_neg unnamed, if_pos homeless, Books.findById, if_neg unnamed, if_pos homeless]
    exact .threw (.tenantIsolation _)
  rw [if_neg unnamed, if_neg homeless, findById_eq same unnamed homeless]
  cases found : vault.tokens.get? (trim call.id) with
  | none =>
    have stranger : owner vault.tokens call.id ≠ some (trim call.tenantId) := by
      rw [owner, found]
      intro same
      cases same
    have none : unfound vault.tokens call.id call.tenantId =
        .authentication s!"Token '{call.id}' not found for tenant '{call.tenantId}'" := by
      rw [unfound, owner, found]
      rfl
    rw [selectRow, found]
    exact none ▸ .crossing stranger
  | some row =>
    rw [selectRow_tenant found]
    by_cases ours : row.tenantId = trim call.tenantId
    · simp only [if_pos ours]
      exact .writing row.spendRow
    · simp only [if_neg ours]
      apply SamePhase.crossing
      rw [owner, found]
      exact fun same => ours (Option.some.inj same)

/-- The selection behind finds what the first one has thrown for. -/
theorem crossCheck_same {vault : Vault κ} {call : SpendCall}
    (stranger : owner vault.tokens call.id ≠ some (trim call.tenantId)) :
    SamePhase vault.tokens call.id call.tenantId call.spendMicrodollars
      (crossCheck vault (.recordSpend call.id call.tenantId call.spendMicrodollars))
      (.threw (unfound vault.tokens call.id call.tenantId)) := by
  rw [crossCheck, selectRow_none]
  cases found : vault.tokens.get? (trim call.id) with
  | none =>
    simp only [Operation.id, found, unfound, owner, Option.map_none]
    exact .threw (.authentication _ _)
  | some row =>
    have other : row.tenantId ≠ trim call.tenantId := by
      intro same
      apply stranger
      rw [owner, found, Option.map_some, same]
    simp only [Operation.id, Operation.tenantId, found, unfound, owner, Option.map_some,
      Option.all_some, decide_eq_true_eq, if_neg other]
    exact .threw (.tenantIsolation _)

/-! ## Runs -/

section

variable {world : World κ} {sys : System Books SpendCall} {i : Nat}

/-- A call and its spend advance, and the rows keep their owners. -/
theorem Simulates.set (simulates : Simulates world sys) {vault : Vault κ} {call : Call κ}
    {spend : SpendCall} (tokens : SameTokens vault.tokens books)
    (owners : ∀ id, owner vault.tokens id = owner world.shared.tokens id)
    (same : SameCall vault.tokens call spend) :
    Simulates ⟨vault, world.processes.set i call⟩ ⟨books, sys.processes.set i spend⟩ where
  tokens := tokens
  calls := by
    apply Interleaving.forall₂_set _ i same
    exact simulates.calls.imp fun _ _ same => ⟨same.operation, same.phase.kept owners⟩

theorem Simulates.set_left (simulates : Simulates world sys) {call : Call κ} {spend : SpendCall}
    (present : sys.processes[i]? = some spend) (same : SameCall world.shared.tokens call spend) :
    Simulates ⟨world.shared, world.processes.set i call⟩ sys := by
  have matched : Simulates ⟨world.shared, world.processes.set i call⟩
      ⟨sys.shared, sys.processes.set i spend⟩ :=
    simulates.set simulates.tokens (fun _ => rfl) same
  obtain ⟨bound, here⟩ := List.getElem?_eq_some_iff.mp present
  rwa [← here, List.set_getElem_self] at matched

variable [Edge] {aes : AesGcm κ} {masterKey : KeyInput κ}

/-- A statement of the vault is one of the spends, or the second look at an id. -/
theorem Simulates.step (simulates : Simulates world sys) (event : Event) :
    Simulates (TokenVault.step aes masterKey world event) sys ∨
      ∃ i, Simulates (TokenVault.step aes masterKey world event)
        (Interleaving.step Spending.advance sys i) := by
  cases event with
  | tick ms => exact Or.inl ⟨simulates.tokens, simulates.calls⟩
  | resume i =>
    rw [TokenVault.step, Interleaving.stepEvent]
    rcases Interleaving.getElem?_forall₂ simulates.calls i with
      ⟨absent, -⟩ | ⟨⟨operation, phase⟩, ⟨id, tenantId, amount, spending⟩, present, matched, same⟩
    · rw [Interleaving.step_none absent]
      exact Or.inl simulates
    · obtain ⟨rfl, same⟩ := same
      change SamePhase world.shared.tokens id tenantId amount phase spending at same
      rw [Interleaving.step_some present]
      cases same with
      | starting =>
        refine Or.inr ⟨i, ?_⟩
        rw [Interleaving.step_some matched]
        exact simulates.set simulates.tokens (fun _ => rfl)
          ⟨rfl, select_same simulates.tokens ⟨id, tenantId, amount, .selecting⟩⟩
      | writing existing =>
        refine Or.inr ⟨i, ?_⟩
        rw [Interleaving.step_some matched]
        exact simulates.set (simulates.tokens.spent _) owner_spent ⟨rfl, .returned _⟩
      | crossing stranger =>
        exact Or.inl (simulates.set_left matched ⟨rfl, crossCheck_same stranger⟩)
      | returned newSpent => exact Or.inl (simulates.set_left matched ⟨rfl, .returned newSpent⟩)
      | threw same => exact Or.inl (simulates.set_left matched ⟨rfl, .threw same⟩)

/-- A run of the vault whose calls record spends is one of the spends, in some order of their
statements. -/
theorem Simulates.run (simulates : Simulates world sys) (schedule : List Event) :
    ∃ statements : List Nat, Simulates (TokenVault.run aes masterKey world schedule)
      (statements.foldl (Interleaving.step Spending.advance) sys) :=
  Transition.foldl_simulated (fun _ _ event simulates => simulates.step event) simulates schedule

/-- The books with a ledger and what the spends read of a vault. -/
def booksOf (ledger : List CostLedgerEvent) (tokens : TokenTable) : Books where
  ledger
  tokens :=
    { values := tokens.values.map StoredToken.spendRow
      distinct := by
        rw [List.map_map]
        exact tokens.distinct }

omit [Edge] in
theorem sameTokens_booksOf (ledger : List CostLedgerEvent) (tokens : TokenTable) :
    SameTokens tokens (booksOf ledger tokens) := by
  intro id
  rw [IndexedMap.get?, booksOf, List.find?_map]
  rfl

/-- Spends that start on a vault leave in it what they leave in the books, in some order of their
statements, and end there as they end here. -/
theorem run_spends (ledger : List CostLedgerEvent) (vault : Vault κ) (spends : List SpendCall)
    (start : ∀ spend ∈ spends, spend.phase = .selecting) (schedule : List Event) :
    ∃ statements : List Nat,
      Simulates
        (TokenVault.run aes masterKey
          { shared := vault
            processes := spends.map fun spend =>
              { operation := .recordSpend spend.id spend.tenantId spend.spendMicrodollars } }
          schedule)
        (statements.foldl (Interleaving.step Spending.advance)
          ⟨booksOf ledger vault.tokens, spends⟩) := by
  refine Simulates.run ⟨sameTokens_booksOf ledger vault.tokens, ?_⟩ schedule
  rw [List.forall₂_map_left_iff, List.forall₂_same]
  intro spend mem
  exact ⟨rfl, start spend mem ▸ .starting⟩

end

end KeyCollective.TokenVault
