import KeyCollective.Lib.Transition
import KeyCollective.Worker.Accounting

/-!
# The books of a run of completions

A completion's event carries the model's id for the key's, and every write fails
silently. `Bookable` is what a completion needs for its event and its token's
spend to be right; runs of such completions keep the ledger and the spends of
every tenant equal.
-/

namespace KeyCollective

namespace Books

/-- What a token has spent; nothing when it has no row. -/
def spentBy (books : Books) (id : String) : Int :=
  match books.tokens.get? id with
  | some row => row.spentMicrodollars
  | none => 0

/-- The costs of a tenant's ledger events. -/
def ledgerTotal (books : Books) (tenantId : String) : Int :=
  (books.ledger.map fun event =>
    if event.tenantId = tenantId then event.costMicrodollars else 0).sum

/-- The spend of a tenant's tokens. -/
def spendTotal (books : Books) (tenantId : String) : Int :=
  (books.tokens.values.map fun row =>
    if row.tenantId = tenantId then row.spentMicrodollars else 0).sum

def Balanced (books : Books) : Prop :=
  ∀ tenantId, books.ledgerTotal tenantId = books.spendTotal tenantId

/-- The repository's conditions on an event. -/
structure Recordable (input : CostLedgerEvent) : Prop where
  tenant : isBlank input.tenantId = false
  request : isBlank input.requestId = false
  key : isBlank input.keyId = false
  provider : isBlank input.provider = false
  model : isBlank input.modelId = false
  status : 100 ≤ input.statusCode ∧ input.statusCode ≤ 599
  nonneg : 0 ≤ input.costMicrodollars
  safe : input.costMicrodollars ≤ maxSafeInteger

/-- The repository's conditions on a spend: the token's row is there and the tenant's. -/
structure Spendable (books : Books) (id tenantId : String) (row : TokenRow) : Prop where
  named : id ≠ ""
  tenant : trim tenantId ≠ ""
  found : books.tokens.get? (trim id) = some row
  owned : row.tenantId = trim tenantId

theorem recordEvent_ok {books after : Books} {input : CostLedgerEvent} :
    books.recordEvent input = .ok after ↔
      Recordable input ∧ after =
        { books with ledger := books.ledger ++ [eventRow input input.costMicrodollars] } := by
  constructor
  · intro recorded
    obtain ⟨⟨⟩, valid, recorded⟩ := except_bind_ok.mp recorded
    obtain ⟨cost, checked, recorded⟩ := except_bind_ok.mp recorded
    obtain ⟨stored, bounded, recorded⟩ := except_bind_ok.mp recorded
    obtain ⟨nonneg, rfl⟩ := validateMicrodollars_ok.mp checked
    obtain ⟨-, safe, rfl⟩ := toSqlInteger_ok.mp bounded
    obtain ⟨tenant, request, key, provider, model, status⟩ := validateEventInput_ok.mp valid
    exact ⟨⟨tenant, request, key, provider, model, status, nonneg, safe⟩,
      (Except.ok.inj recorded).symm⟩
  · rintro ⟨recordable, rfl⟩
    have above : -maxSafeInteger ≤ input.costMicrodollars := by
      have nonneg := recordable.nonneg
      unfold maxSafeInteger
      omega
    apply except_bind_ok.mpr
    refine ⟨(), validateEventInput_ok.mpr ⟨recordable.tenant, recordable.request, recordable.key,
      recordable.provider, recordable.model, recordable.status⟩, except_bind_ok.mpr ?_⟩
    refine ⟨_, validateMicrodollars_ok.mpr ⟨recordable.nonneg, rfl⟩, except_bind_ok.mpr ?_⟩
    exact ⟨_, toSqlInteger_ok.mpr ⟨above, recordable.safe, rfl⟩, rfl⟩

theorem findById_ok {books : Books} {id tenantId : String} {row : TokenRow} :
    books.findById id tenantId = .ok (some row) ↔ Spendable books id tenantId row := by
  unfold findById
  constructor
  · intro found
    split_ifs at found with named tenant
    · cases found
    · cases stored : books.tokens.get? (trim id) with
      | none =>
        rw [stored] at found
        cases found
      | some other =>
        simp only [stored] at found
        split_ifs at found with owned
        cases found
        exact ⟨named, tenant, stored, owned⟩
  · rintro ⟨named, tenant, found, owned⟩
    simp [named, tenant, found, owned]

theorem recordSpend_ok {books after : Books} {id tenantId : String} {spend : Int} :
    books.recordSpend id tenantId spend = .ok after ↔
      0 ≤ spend ∧ ∃ row, Spendable books id tenantId row ∧ after =
        { books with
          tokens := books.tokens.set { row with
            spentMicrodollars := numberOfBigInt (row.spentMicrodollars + spend) } } := by
  unfold recordSpend
  constructor
  · intro recorded
    split_ifs at recorded with negative
    obtain ⟨existing, found, recorded⟩ := except_bind_ok.mp recorded
    cases existing with
    | none => cases recorded
    | some row =>
      have nonneg : 0 ≤ spend := by omega
      exact ⟨nonneg, row, findById_ok.mp found, (Except.ok.inj recorded).symm⟩
  · rintro ⟨nonneg, row, spendable, rfl⟩
    have negative : ¬ spend < 0 := by omega
    rw [if_neg negative]
    exact except_bind_ok.mpr ⟨some row, findById_ok.mpr spendable, rfl⟩

/-- An event the repository rejects leaves no trace. -/
theorem recordEvent_getD (books : Books) (input : CostLedgerEvent) :
    (Recordable input ∧ (books.recordEvent input).toOption.getD books =
        { books with ledger := books.ledger ++ [eventRow input input.costMicrodollars] }) ∨
      (¬ Recordable input ∧ (books.recordEvent input).toOption.getD books = books) := by
  cases recorded : books.recordEvent input with
  | ok after =>
    obtain ⟨recordable, rfl⟩ := recordEvent_ok.mp recorded
    exact Or.inl ⟨recordable, rfl⟩
  | error failure =>
    refine Or.inr ⟨fun recordable => ?_, rfl⟩
    rw [recordEvent_ok.mpr ⟨recordable, rfl⟩] at recorded
    cases recorded

/-- Nor does a spend on a row that is not there. -/
theorem recordSpend_getD (books : Books) (id tenantId : String) {spend : Int}
    (nonneg : 0 ≤ spend) :
    (∃ row, Spendable books id tenantId row ∧
        (books.recordSpend id tenantId spend).toOption.getD books =
          { books with
            tokens := books.tokens.set { row with
              spentMicrodollars := numberOfBigInt (row.spentMicrodollars + spend) } }) ∨
      ((∀ row, ¬ Spendable books id tenantId row) ∧
        (books.recordSpend id tenantId spend).toOption.getD books = books) := by
  cases recorded : books.recordSpend id tenantId spend with
  | ok after =>
    obtain ⟨-, row, spendable, rfl⟩ := recordSpend_ok.mp recorded
    exact Or.inl ⟨row, spendable, rfl⟩
  | error failure =>
    refine Or.inr ⟨fun row spendable => ?_, rfl⟩
    rw [recordSpend_ok.mpr ⟨nonneg, row, spendable, rfl⟩] at recorded
    cases recorded

theorem recordSpend_ledger (books : Books) (id tenantId : String) {spend : Int}
    (nonneg : 0 ≤ spend) :
    ((books.recordSpend id tenantId spend).toOption.getD books).ledger = books.ledger := by
  obtain ⟨row, -, same⟩ | ⟨-, same⟩ := books.recordSpend_getD id tenantId nonneg
  · rw [same]
  · rw [same]

theorem ledgerTotal_append (books : Books) (event : CostLedgerEvent) (tenantId : String) :
    ledgerTotal { books with ledger := books.ledger ++ [event] } tenantId =
      books.ledgerTotal tenantId +
        if event.tenantId = tenantId then event.costMicrodollars else 0 := by
  simp [ledgerTotal]

/-- A row that grows adds as much to its tenant's total. -/
theorem spendTotal_set {books : Books} {row : TokenRow} (spent : Int) (tenantId : String)
    (found : books.tokens.get? row.id = some row) :
    spendTotal
        { books with tokens := books.tokens.set { row with spentMicrodollars := spent } }
        tenantId =
      books.spendTotal tenantId +
        if row.tenantId = tenantId then spent - row.spentMicrodollars else 0 := by
  have change := books.tokens.sum_set
    (fun row => if row.tenantId = tenantId then row.spentMicrodollars else 0)
    (v := { row with spentMicrodollars := spent }) found
  simp only [spendTotal] at change ⊢
  split_ifs at change ⊢ <;> omega

theorem spentBy_set (books : Books) (row : TokenRow) (id : String) :
    spentBy { books with tokens := books.tokens.set row } id =
      if row.id = id then row.spentMicrodollars else books.spentBy id := by
  unfold spentBy
  rw [IndexedMap.get?_set]
  split_ifs <;> rfl

end Books

section Completions

variable [Host]

namespace ChatHandler

open Books

variable {registry : ModelRegistry} {source : RouterSource} {request : ChatRequest}
  {before : Books} {response : CascadeRouteResponse} {key : String}

/-- The event a completion is to leave: on the dispatched key, with the final usage and
its cost. -/
structure EventOf (registry : ModelRegistry) (response : CascadeRouteResponse) (key : String)
    (event : CostLedgerEvent) : Prop where
  key : event.keyId = key
  prompt : event.promptTokens = (response.response.usage.map StreamUsage.promptTokens).getD 0
  completion : event.completionTokens =
    (response.response.usage.map StreamUsage.completionTokens).getD 0
  cached : event.cachedTokens = (response.response.usage.bind StreamUsage.cachedTokens).getD 0
  reasoning : event.reasoningTokens =
    (response.response.usage.bind StreamUsage.reasoningTokens).getD 0
  cost : event.costMicrodollars = finalCost registry response

/-- A completion is billed: one event, and its cost on the token. -/
structure Billed (registry : ModelRegistry) (request : ChatRequest)
    (response : CascadeRouteResponse) (key : String) (before after : Books) : Prop where
  event : ∃ event, after.ledger = before.ledger ++ [event] ∧ EventOf registry response key event
  spend : after.spentBy request.auth.token.id =
    before.spentBy request.auth.token.id + finalCost registry response

/-- The event a completion is booked with, before the repository trims it. -/
def finalEvent (registry : ModelRegistry) (request : ChatRequest)
    (response : CascadeRouteResponse) : CostLedgerEvent :=
  ledgerEvent response response.response.usage (finalCost registry response) request

/-- What has to hold before a completion for it to be billed: the repository takes the
event, the key has the model's id, no count is negative, and a positive cost finds a row of
the tenant's under the token's own id and leaves it a number a double holds. -/
structure Bookable (registry : ModelRegistry) (request : ChatRequest)
    (response : CascadeRouteResponse) (key : String) (before : Books) : Prop where
  recordable : Recordable (finalEvent registry request response)
  key : trim response.modelDef.id = key
  prompt : 0 ≤ (finalEvent registry request response).promptTokens
  completion : 0 ≤ (finalEvent registry request response).completionTokens
  cached : 0 ≤ (finalEvent registry request response).cachedTokens
  reasoning : 0 ≤ (finalEvent registry request response).reasoningTokens
  spendable : 0 < finalCost registry response → ∃ row,
    Spendable before request.auth.token.id request.auth.tenantId row ∧
      row.id = request.auth.token.id ∧
      numberOfBigInt (row.spentMicrodollars + finalCost registry response) =
        row.spentMicrodollars + finalCost registry response

/-- Both handlers settle a completion on its final usage and cost. -/
theorem completion_books (books : Books)
    (routed : (route (source.router registry) request).outcome = .ok response) :
    (handleChatCompletions (source.router registry) request books).2 =
      (settle response response.response.usage (finalCost registry response) request books).2 := by
  obtain ⟨answered⟩ := answered_of_ok routed
  unfold handleChatCompletions
  simp only [routed]
  cases stream : request.stream with
  | true => rfl
  | false =>
    obtain ⟨usage, cost⟩ := answered.plainCost stream
    simp only [Bool.false_eq_true, ↓reduceIte, handleNonStreamingResponse]
    rw [usage, cost]

/-- The books a completion leaves, by what the two repositories accepted. -/
inductive SettledBooks (registry : ModelRegistry) (request : ChatRequest)
    (response : CascadeRouteResponse) (before : Books) : Books → Prop
  | rejected (unrecordable : ¬ Recordable (finalEvent registry request response))
      {after : Books} (ledger : after.ledger = before.ledger) :
      SettledBooks registry request response before after
  | unspent (recordable : Recordable (finalEvent registry request response))
      (free : ¬ 0 < finalCost registry response) :
      SettledBooks registry request response before
        { before with ledger := before.ledger ++
            [eventRow (finalEvent registry request response) (finalCost registry response)] }
  | lost (recordable : Recordable (finalEvent registry request response))
      (positive : 0 < finalCost registry response)
      (missing : ∀ row, ¬ Spendable before request.auth.token.id request.auth.tenantId row) :
      SettledBooks registry request response before
        { before with ledger := before.ledger ++
            [eventRow (finalEvent registry request response) (finalCost registry response)] }
  | spent (recordable : Recordable (finalEvent registry request response))
      (positive : 0 < finalCost registry response) (row : TokenRow)
      (spendable : Spendable before request.auth.token.id request.auth.tenantId row) :
      SettledBooks registry request response before
        { ledger := before.ledger ++
            [eventRow (finalEvent registry request response) (finalCost registry response)]
          tokens := before.tokens.set { row with
            spentMicrodollars :=
              numberOfBigInt (row.spentMicrodollars + finalCost registry response) } }

theorem settle_books (before : Books) :
    SettledBooks registry request response before
      (settle response response.response.usage (finalCost registry response) request before).2 := by
  have event : ledgerEvent response response.response.usage (finalCost registry response) request =
    finalEvent registry request response := rfl
  have cost : (finalEvent registry request response).costMicrodollars =
    finalCost registry response := rfl
  simp only [settle, event]
  obtain ⟨recordable, booked⟩ | ⟨unrecordable, booked⟩ :=
    before.recordEvent_getD (finalEvent registry request response)
  · rw [booked, cost]
    by_cases positive : 0 < finalCost registry response
    · rw [if_pos positive]
      obtain ⟨row, spendable, spent⟩ | ⟨missing, spent⟩ :=
        recordSpend_getD { before with ledger := before.ledger ++
            [eventRow (finalEvent registry request response) (finalCost registry response)] }
          request.auth.token.id request.auth.tenantId (Int.le_of_lt positive)
      · have same : Spendable before request.auth.token.id request.auth.tenantId row :=
          ⟨spendable.named, spendable.tenant, spendable.found, spendable.owned⟩
        rw [spent]
        exact SettledBooks.spent recordable positive row same
      · have none : ∀ row, ¬ Spendable before request.auth.token.id request.auth.tenantId row :=
          fun row other =>
            missing row ⟨other.named, other.tenant, other.found, other.owned⟩
        rw [spent]
        exact SettledBooks.lost recordable positive none
    · rw [if_neg positive]
      exact SettledBooks.unspent recordable positive
  · rw [booked]
    apply SettledBooks.rejected unrecordable
    split_ifs with positive
    · exact recordSpend_ledger before _ _ (Int.le_of_lt positive)
    · rfl

theorem eventOf_iff :
    EventOf registry response key
        (eventRow (finalEvent registry request response) (finalCost registry response)) ↔
      trim response.modelDef.id = key ∧
        0 ≤ (finalEvent registry request response).promptTokens ∧
        0 ≤ (finalEvent registry request response).completionTokens ∧
        0 ≤ (finalEvent registry request response).cachedTokens ∧
        0 ≤ (finalEvent registry request response).reasoningTokens := by
  constructor
  · rintro ⟨key, prompt, completion, cached, reasoning, -⟩
    refine ⟨key, ?_, ?_, ?_, ?_⟩
    · exact le_of_le_of_eq (Int.le_max_left 0 _) prompt
    · exact le_of_le_of_eq (Int.le_max_left 0 _) completion
    · exact le_of_le_of_eq (Int.le_max_left 0 _) cached
    · exact le_of_le_of_eq (Int.le_max_left 0 _) reasoning
  · rintro ⟨key, prompt, completion, cached, reasoning⟩
    refine ⟨key, ?_, ?_, ?_, ?_, rfl⟩
    · exact Int.max_eq_right prompt
    · exact Int.max_eq_right completion
    · exact Int.max_eq_right cached
    · exact Int.max_eq_right reasoning

theorem appended_eventOf_iff {ledger : List CostLedgerEvent} {event : CostLedgerEvent} :
    (∃ other, ledger ++ [event] = ledger ++ [other] ∧ EventOf registry response key other) ↔
      EventOf registry response key event := by
  constructor
  · rintro ⟨other, appended, booked⟩
    obtain rfl : event = other := by simpa using appended
    exact booked
  · intro booked
    exact ⟨event, rfl, booked⟩

/-- A completion settles the books. -/
theorem settled_completion (before : Books)
    (routed : (route (source.router registry) request).outcome = .ok response) :
    SettledBooks registry request response before
      (handleChatCompletions (source.router registry) request before).2 := by
  rw [completion_books before routed]
  exact settle_books before

/-- A completion is billed exactly when it was bookable. -/
theorem billed_iff (before : Books)
    (routed : (route (source.router registry) request).outcome = .ok response) :
    Billed registry request response key before
        (handleChatCompletions (source.router registry) request before).2 ↔
      Bookable registry request response key before := by
  have settled := settled_completion before routed
  generalize (handleChatCompletions (source.router registry) request before).2 = after at settled ⊢
  cases settled with
  | rejected unrecordable ledger =>
    constructor
    · intro billed
      obtain ⟨event, appended, -⟩ := billed.event
      rw [ledger] at appended
      simp at appended
    · intro bookable
      exact absurd bookable.recordable unrecordable
  | unspent recordable free =>
    constructor
    · intro billed
      obtain ⟨key, prompt, completion, cached, reasoning⟩ :=
        eventOf_iff.mp (appended_eventOf_iff.mp billed.event)
      exact ⟨recordable, key, prompt, completion, cached, reasoning,
        fun positive => absurd positive free⟩
    · intro bookable
      have zero : finalCost registry response = 0 :=
        Int.le_antisymm (Int.not_lt.mp free) recordable.nonneg
      refine ⟨appended_eventOf_iff.mpr (eventOf_iff.mpr ⟨bookable.key, bookable.prompt,
        bookable.completion, bookable.cached, bookable.reasoning⟩), ?_⟩
      rw [zero, Int.add_zero]
      rfl
  | lost recordable positive missing =>
    constructor
    · intro billed
      have unchanged : before.spentBy request.auth.token.id =
        before.spentBy request.auth.token.id + finalCost registry response := billed.spend
      omega
    · intro bookable
      obtain ⟨row, spendable, -⟩ := bookable.spendable positive
      exact absurd spendable (missing row)
  | spent recordable positive row spendable =>
    have rowId : row.id = trim request.auth.token.id :=
      (IndexedMap.get?_some spendable.found).2
    have after : spentBy
        { ledger := before.ledger ++
            [eventRow (finalEvent registry request response) (finalCost registry response)]
          tokens := before.tokens.set { row with
            spentMicrodollars :=
              numberOfBigInt (row.spentMicrodollars + finalCost registry response) } }
        request.auth.token.id =
      if row.id = request.auth.token.id then
        numberOfBigInt (row.spentMicrodollars + finalCost registry response)
      else before.spentBy request.auth.token.id :=
      spentBy_set before { row with
        spentMicrodollars :=
          numberOfBigInt (row.spentMicrodollars + finalCost registry response) } _
    have owner : row.id = request.auth.token.id →
        before.spentBy request.auth.token.id = row.spentMicrodollars := by
      intro same
      rw [spentBy, ← same, rowId, spendable.found]
    constructor
    · intro billed
      obtain ⟨key, prompt, completion, cached, reasoning⟩ :=
        eventOf_iff.mp (appended_eventOf_iff.mp billed.event)
      refine ⟨recordable, key, prompt, completion, cached, reasoning, fun _ => ?_⟩
      have grown := billed.spend
      rw [after] at grown
      split_ifs at grown with same
      · rw [owner same] at grown
        exact ⟨row, spendable, same, grown⟩
      · omega
    · intro bookable
      obtain ⟨other, found, same, exact⟩ := bookable.spendable positive
      obtain rfl : row = other := Option.some.inj (spendable.found.symm.trans found.found)
      refine ⟨appended_eventOf_iff.mpr (eventOf_iff.mpr ⟨bookable.key, bookable.prompt,
        bookable.completion, bookable.cached, bookable.reasoning⟩), ?_⟩
      rw [after, if_pos same, exact, owner same]

/-- A bookable completion keeps the totals of every tenant equal. -/
theorem balanced_of_bookable
    (routed : (route (source.router registry) request).outcome = .ok response)
    (bookable : Bookable registry request response key before) (balanced : before.Balanced) :
    (handleChatCompletions (source.router registry) request before).2.Balanced := by
  have settled := settled_completion before routed
  generalize (handleChatCompletions (source.router registry) request before).2 = after at settled ⊢
  intro tenantId
  have agree := balanced tenantId
  have event := ledgerTotal_append before
    (eventRow (finalEvent registry request response) (finalCost registry response)) tenantId
  cases settled with
  | rejected unrecordable ledger => exact absurd bookable.recordable unrecordable
  | unspent recordable free =>
    have zero : finalCost registry response = 0 :=
      Int.le_antisymm (Int.not_lt.mp free) recordable.nonneg
    rw [event, agree, eventRow, zero, ite_self, Int.add_zero]
    rfl
  | lost recordable positive missing =>
    obtain ⟨row, spendable, -⟩ := bookable.spendable positive
    exact absurd spendable (missing row)
  | spent recordable positive row spendable =>
    obtain ⟨other, found, -, exact⟩ := bookable.spendable positive
    obtain rfl : row = other := Option.some.inj (spendable.found.symm.trans found.found)
    have rowId : row.id = trim request.auth.token.id :=
      (IndexedMap.get?_some spendable.found).2
    have listed : before.tokens.get? row.id = some row := rowId ▸ spendable.found
    have spend := spendTotal_set (row.spentMicrodollars + finalCost registry response) tenantId
      listed
    have tenant : (eventRow (finalEvent registry request response)
        (finalCost registry response)).tenantId = row.tenantId := spendable.owned.symm
    rw [exact]
    calc Books.ledgerTotal _ tenantId
        = before.ledgerTotal tenantId +
            if row.tenantId = tenantId then finalCost registry response else 0 := by
          rw [← tenant]
          exact event
      _ = before.spendTotal tenantId +
            if row.tenantId = tenantId then
              row.spentMicrodollars + finalCost registry response - row.spentMicrodollars
            else 0 := by
          rw [agree, add_sub_cancel_left]
      _ = Books.spendTotal _ tenantId := spend.symm

/-- The books after each request of a run. -/
def serve (source : RouterSource) (registry : ModelRegistry) (books : Books)
    (request : ChatRequest) : Books :=
  (handleChatCompletions (source.router registry) request books).2

/-- Every completion a request ends in is billed. -/
def BilledStep (source : RouterSource) (registry : ModelRegistry) (books : Books)
    (request : ChatRequest) : Prop :=
  ∀ response key, (route (source.router registry) request).outcome = .ok response →
    (route (source.router registry) request).dispatchedKey = some key →
    Billed registry request response key books (serve source registry books request)

def BookableStep (source : RouterSource) (registry : ModelRegistry) (books : Books)
    (request : ChatRequest) : Prop :=
  ∀ response key, (route (source.router registry) request).outcome = .ok response →
    (route (source.router registry) request).dispatchedKey = some key →
    Bookable registry request response key books

theorem billedStep_iff (books : Books) :
    BilledStep source registry books request ↔ BookableStep source registry books request := by
  constructor
  · intro billed response key routed dispatched
    exact (billed_iff books routed).mp (billed response key routed dispatched)
  · intro bookable response key routed dispatched
    exact (billed_iff books routed).mpr (bookable response key routed dispatched)

theorem serve_balanced (books : Books) (request : ChatRequest) (balanced : books.Balanced)
    (bookable : BookableStep source registry books request) :
    (serve source registry books request).Balanced := by
  cases routed : (route (source.router registry) request).outcome with
  | error failure =>
    have same : serve source registry books request = books := by
      simp only [serve, handleChatCompletions, routed]
    rw [same]
    exact balanced
  | ok response =>
    obtain ⟨answered⟩ := answered_of_ok routed
    exact balanced_of_bookable routed (bookable response answered.key routed answered.dispatched)
      balanced

/-- Every completion of a run is billed, and the ledger and the spends of every tenant
agree throughout, exactly when each completion was bookable in the books it met. -/
theorem books_agree_iff (books : Books) (requests : List ChatRequest)
    (balanced : books.Balanced) :
    (Transition.Guarded (serve source registry) (BilledStep source registry) books requests ∧
        ∀ after ∈ Transition.reached (serve source registry) books requests, after.Balanced) ↔
      Transition.Guarded (serve source registry) (BookableStep source registry) books requests := by
  constructor
  · rintro ⟨billed, -⟩
    exact billed.imp fun books request => (billedStep_iff books).mp
  · intro bookable
    constructor
    · exact bookable.imp fun books request => (billedStep_iff books).mpr
    · exact Transition.invariant_of_guarded serve_balanced balanced bookable

end ChatHandler

end Completions

namespace ChatHandler

section Examples

attribute [local instance] asciiHost

theorem flashBooks_balanced : flashBooks.Balanced := by
  intro tenantId
  unfold Books.ledgerTotal Books.spendTotal
  by_cases h : "acme" = tenantId
  · simp [flashBooks, IndexedMap.set, IndexedMap.put]
  · simp [flashBooks, IndexedMap.set, IndexedMap.put]

theorem books_agree_flash :
    (Transition.Guarded (serve .resolver flashRegistry) (BilledStep .resolver flashRegistry)
          flashBooks [flashRequest false "flash", flashRequest true "flash"] ∧
        ∀ after ∈ Transition.reached (serve .resolver flashRegistry) flashBooks
          [flashRequest false "flash", flashRequest true "flash"], after.Balanced) := by
  refine (books_agree_iff flashBooks _ flashBooks_balanced).mpr ⟨?_, ?_, trivial⟩
  · intro response key routed dispatched
    obtain rfl := Except.ok.inj routed
    obtain rfl := Option.some.inj dispatched
    refine ⟨⟨by decide, by decide, by decide, by decide, by decide, by decide, by decide,
      by decide⟩, by decide, by decide, by decide, by decide, by decide, fun _ => ?_⟩
    exact ⟨⟨"tok", "acme", 0⟩, ⟨by decide, by decide, by decide, by decide⟩, by decide, by decide⟩
  · intro response key routed dispatched
    obtain rfl := Except.ok.inj routed
    obtain rfl := Option.some.inj dispatched
    refine ⟨⟨by decide, by decide, by decide, by decide, by decide, by decide, by decide,
      by decide⟩, by decide, by decide, by decide, by decide, by decide, fun _ => ?_⟩
    exact ⟨⟨"tok", "acme", 2⟩, ⟨by decide, by decide, by decide, by decide⟩, by decide, by decide⟩

/-- The event of a completion dispatched on `k1` names the model. -/
theorem ledger_names_model :
    flashBooks.Balanced ∧
      (route (RouterSource.resolver.router flashRegistry) (flashRequest false "k1")).dispatchedKey =
        some "k1" ∧
      (serve .resolver flashRegistry flashBooks (flashRequest false "k1")).ledger.map
        CostLedgerEvent.keyId = ["flash"] ∧
      ¬ BilledStep .resolver flashRegistry flashBooks (flashRequest false "k1") := by
  refine ⟨flashBooks_balanced, by decide, by decide, fun billed => ?_⟩
  obtain ⟨event, appended, booked⟩ := (billed _ "k1" rfl (by decide)).event
  have named : (serve .resolver flashRegistry flashBooks (flashRequest false "k1")).ledger.map
    CostLedgerEvent.keyId = ["flash"] := by decide
  rw [appended] at named
  have key : event.keyId = "flash" := by simpa [flashBooks] using named
  rw [booked.key] at key
  exact absurd key (by decide)

end Examples

end ChatHandler

end KeyCollective
