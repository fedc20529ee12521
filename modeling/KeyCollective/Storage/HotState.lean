import KeyCollective.Quota.Storage

/-!
# DOStorageAdapter

The hot state of a key is one record: a request count, a breaker flag and an accumulated cost.
Each operation reads it and writes it whole, in a storage transaction. A request count is a
whole number.
-/

namespace KeyCollective

namespace DOStorageAdapter

/-- Costs are read in both forms and written as text. -/
inductive StoredCost where
  | text (s : String)
  | bigint (n : Int)
deriving DecidableEq, Repr

/-- A field that is absent is `none`. -/
structure StoredMetrics where
  rpm : Option Int
  circuitBreakerTripped : Option Bool
  costAccumulatedMicrodollars : Option StoredCost
deriving DecidableEq, Repr

structure KeyMetrics where
  rpm : Int
  circuitBreakerTripped : Bool
  costAccumulatedMicrodollars : Int
deriving DecidableEq, Repr

inductive MetricsError where
  | invalidKey (message : String)
  | negativeCost (message : String)
  /-- `BigInt` of a text that is no number. -/
  | syntaxError
deriving DecidableEq, Repr

/-- `BigInt(cost)`. -/
def StoredCost.toBigInt? : StoredCost → Option Int
  | text s => stringToBigInt s
  | bigint n => some n

abbrev MetricsStorage := String → Option StoredMetrics

def getStorageKey (keyId : String) : String := "metrics:" ++ keyId

def assertValidKeyId (keyId : String) : Except MetricsError Unit :=
  if isBlank keyId then .error (.invalidKey "Key ID cannot be empty") else .ok ()

/-- `existing?.rpm ?? 0`. -/
def storedRpm (existing : Option StoredMetrics) : Int :=
  (existing.bind StoredMetrics.rpm).getD 0

/-- `Boolean(existing?.circuitBreakerTripped)`. -/
def storedTripped (existing : Option StoredMetrics) : Bool :=
  (existing.bind StoredMetrics.circuitBreakerTripped).getD false

/-- The cost as it is carried along, in whichever form it is stored. -/
def carriedCost (existing : Option StoredMetrics) : StoredCost :=
  (existing.bind StoredMetrics.costAccumulatedMicrodollars).getD (.text "0")

/-- The cost as a number. `none` is the error of reading it. -/
def storedCost (existing : Option StoredMetrics) : Option Int :=
  match existing.bind StoredMetrics.costAccumulatedMicrodollars with
  | some cost => cost.toBigInt?
  | none => some 0

def put (storage : MetricsStorage) (storageKey : String) (updated : StoredMetrics) :
    MetricsStorage :=
  fun other => if other = storageKey then some updated else storage other

def getMetrics (storage : MetricsStorage) (keyId : String) :
    Except MetricsError (Option KeyMetrics) := do
  assertValidKeyId keyId
  match storage (getStorageKey keyId) with
  | none => return none
  | some stored =>
    match (carriedCost (some stored)).toBigInt? with
    | none => .error .syntaxError
    | some costAccumulatedMicrodollars =>
      return some ⟨storedRpm (some stored), storedTripped (some stored), costAccumulatedMicrodollars⟩

def incrementRPM (storage : MetricsStorage) (keyId : String) :
    Except MetricsError MetricsStorage := do
  assertValidKeyId keyId
  let existing := storage (getStorageKey keyId)
  return put storage (getStorageKey keyId)
    { rpm := some (storedRpm existing + 1)
      circuitBreakerTripped := some (storedTripped existing)
      costAccumulatedMicrodollars := some (carriedCost existing) }

def updateCircuitBreaker (storage : MetricsStorage) (keyId : String) (tripped : Bool) :
    Except MetricsError MetricsStorage := do
  assertValidKeyId keyId
  let existing := storage (getStorageKey keyId)
  return put storage (getStorageKey keyId)
    { rpm := some (storedRpm existing)
      circuitBreakerTripped := some tripped
      costAccumulatedMicrodollars := some (carriedCost existing) }

def addCost (storage : MetricsStorage) (keyId : String) (costMicrodollars : Int) :
    Except MetricsError MetricsStorage := do
  assertValidKeyId keyId
  if costMicrodollars < 0 then
    .error (.negativeCost "Cost in microdollars cannot be negative")
  else
    let existing := storage (getStorageKey keyId)
    match storedCost existing with
    | none => .error .syntaxError
    | some currentCost =>
      let newCost := currentCost + costMicrodollars
      return put storage (getStorageKey keyId)
        { rpm := some (storedRpm existing)
          circuitBreakerTripped := some (storedTripped existing)
          costAccumulatedMicrodollars := some (.text (toString newCost)) }

inductive Call where
  | incrementRPM (keyId : String)
  | updateCircuitBreaker (keyId : String) (tripped : Bool)
  | addCost (keyId : String) (costMicrodollars : Int)
deriving DecidableEq, Repr

def run (storage : MetricsStorage) : Call → Except MetricsError MetricsStorage
  | .incrementRPM keyId => incrementRPM storage keyId
  | .updateCircuitBreaker keyId tripped => updateCircuitBreaker storage keyId tripped
  | .addCost keyId costMicrodollars => addCost storage keyId costMicrodollars

/-- A transaction whose closure throws is rolled back. -/
def transact (storage : MetricsStorage) (call : Call) : MetricsStorage :=
  match run storage call with
  | .ok updated => updated
  | .error _ => storage

namespace Call

def keyId : Call → String
  | .incrementRPM keyId | .updateCircuitBreaker keyId _ | .addCost keyId _ => keyId

/-- No key is empty and no cost is negative. -/
def accepted : Call → Bool
  | .addCost keyId costMicrodollars => ¬isBlank keyId ∧ 0 ≤ costMicrodollars
  | call => ¬isBlank call.keyId

/-- The requests a call adds to a key. -/
def requests (key : String) : Call → Int
  | .incrementRPM keyId => if keyId = key then 1 else 0
  | _ => 0

/-- The cost a call adds to a key. -/
def cost (key : String) : Call → Int
  | .addCost keyId costMicrodollars => if keyId = key then costMicrodollars else 0
  | _ => 0

/-- The flag a call writes to a key. -/
def flag? (key : String) : Call → Option Bool
  | .updateCircuitBreaker keyId tripped => if keyId = key then some tripped else none
  | _ => none

end Call

theorem getStorageKey_injective {keyId other : String}
    (same : getStorageKey keyId = getStorageKey other) : keyId = other := by
  have chars := congrArg String.toList same
  simp only [getStorageKey, String.toList_append, List.append_cancel_left_eq] at chars
  exact String.toList_injective chars

theorem storedCost_eq (existing : Option StoredMetrics) :
    storedCost existing = (carriedCost existing).toBigInt? := by
  unfold storedCost carriedCost
  split
  case h_1 found => rw [found, Option.getD_some]
  case h_2 absent =>
    rw [absent, Option.getD_none]
    decide

theorem assertValidKeyId_named {keyId : String} (named : isBlank keyId = false) :
    assertValidKeyId keyId = .ok () := by
  rw [assertValidKeyId, named, if_neg Bool.false_ne_true]

/-- What is read of a key is what its record says. -/
theorem getMetrics_eq {keyId : String} (named : isBlank keyId = false) (storage : MetricsStorage)
    {stored : StoredMetrics} (found : storage (getStorageKey keyId) = some stored) :
    getMetrics storage keyId =
      (storedCost (some stored)).elim (.error .syntaxError) fun cost =>
        .ok (some ⟨storedRpm (some stored), storedTripped (some stored), cost⟩) := by
  rw [storedCost_eq]
  simp only [getMetrics, assertValidKeyId_named named, found]
  cases (carriedCost (some stored)).toBigInt? with
  | none => rw [Option.elim_none]; rfl
  | some cost => rw [Option.elim_some]; rfl

@[simp]
theorem put_self (storage : MetricsStorage) (storageKey : String) (updated : StoredMetrics) :
    put storage storageKey updated storageKey = some updated :=
  if_pos rfl

theorem put_other (storage : MetricsStorage) (updated : StoredMetrics) {storageKey other : String}
    (elsewhere : storageKey ≠ other) :
    put storage storageKey updated other = storage other :=
  if_neg elsewhere.symm

/-- What a call leaves of a key's record, `none` when its cost cannot be read. -/
def rewrite (existing : Option StoredMetrics) : Call → Option StoredMetrics
  | .incrementRPM _ =>
    some ⟨some (storedRpm existing + 1), some (storedTripped existing), some (carriedCost existing)⟩
  | .updateCircuitBreaker _ tripped =>
    some ⟨some (storedRpm existing), some tripped, some (carriedCost existing)⟩
  | .addCost _ costMicrodollars =>
    (storedCost existing).map fun current =>
      ⟨some (storedRpm existing), some (storedTripped existing),
        some (.text (toString (current + costMicrodollars)))⟩

theorem run_accepted {call : Call} (accepted : call.accepted = true) (storage : MetricsStorage) :
    run storage call =
      (rewrite (storage (getStorageKey call.keyId)) call).elim (.error .syntaxError) fun updated =>
        .ok (put storage (getStorageKey call.keyId) updated) := by
  cases call with
  | incrementRPM keyId =>
    have named : isBlank keyId = false := by simpa [Call.accepted, Call.keyId] using accepted
    simp only [run, incrementRPM, assertValidKeyId_named named]
    rfl
  | updateCircuitBreaker keyId tripped =>
    have named : isBlank keyId = false := by simpa [Call.accepted, Call.keyId] using accepted
    simp only [run, updateCircuitBreaker, assertValidKeyId_named named]
    rfl
  | addCost keyId costMicrodollars =>
    have checked : isBlank keyId = false ∧ 0 ≤ costMicrodollars := by
      simpa [Call.accepted] using accepted
    simp only [run, addCost, assertValidKeyId_named checked.1, if_neg (not_lt.mpr checked.2),
      rewrite, Call.keyId]
    cases storedCost (storage (getStorageKey keyId)) <;> rfl

theorem run_refused {call : Call} (refused : call.accepted = false) (storage : MetricsStorage) :
    ∃ error, run storage call = .error error := by
  have empty {keyId : String} (blank : isBlank keyId = true) :
      assertValidKeyId keyId = .error (.invalidKey "Key ID cannot be empty") := if_pos blank
  cases call with
  | incrementRPM keyId =>
    have blank : isBlank keyId = true := by simpa [Call.accepted, Call.keyId] using refused
    exact ⟨_, by rw [run, incrementRPM, empty blank]; rfl⟩
  | updateCircuitBreaker keyId tripped =>
    have blank : isBlank keyId = true := by simpa [Call.accepted, Call.keyId] using refused
    exact ⟨_, by rw [run, updateCircuitBreaker, empty blank]; rfl⟩
  | addCost keyId costMicrodollars =>
    cases blank : isBlank keyId with
    | true => exact ⟨_, by rw [run, addCost, empty blank]; rfl⟩
    | false =>
      have negative : costMicrodollars < 0 := by simpa [Call.accepted, blank] using refused
      exact ⟨_, by rw [run, addCost, assertValidKeyId_named blank, if_pos negative]; rfl⟩

theorem transact_refused {call : Call} (refused : call.accepted = false)
    (storage : MetricsStorage) : transact storage call = storage := by
  obtain ⟨error, thrown⟩ := run_refused refused storage
  rw [transact, thrown]

theorem transact_accepted {call : Call} (accepted : call.accepted = true)
    (storage : MetricsStorage) :
    transact storage call =
      (rewrite (storage (getStorageKey call.keyId)) call).elim storage
        (put storage (getStorageKey call.keyId)) := by
  rw [transact, run_accepted accepted]
  cases rewrite (storage (getStorageKey call.keyId)) call <;> rfl

/-- The record of one key, after a call and before. -/
structure Follows (keyId : String) (call : Call) (before after : Option StoredMetrics) : Prop where
  rpm : storedRpm after = storedRpm before + call.requests keyId
  cost : storedCost after = (storedCost before).map (· + call.cost keyId)
  tripped : storedTripped after = (call.flag? keyId).getD (storedTripped before)

theorem Follows.unconcerned {keyId : String} {call : Call} (elsewhere : call.keyId ≠ keyId)
    (existing : Option StoredMetrics) : Follows keyId call existing existing := by
  constructor <;> cases call <;> simp_all [Call.keyId, Call.requests, Call.cost, Call.flag?]

theorem Follows.rewritten {call : Call} {existing : Option StoredMetrics} {updated : StoredMetrics}
    (written : rewrite existing call = some updated) :
    Follows call.keyId call existing (some updated) := by
  cases call with
  | incrementRPM keyId =>
    cases written
    exact ⟨by simp [storedRpm, Call.requests, Call.keyId],
      by simp [storedCost_eq, carriedCost, Call.cost],
      by simp [storedTripped, Call.flag?]⟩
  | updateCircuitBreaker keyId tripped =>
    cases written
    exact ⟨by simp [storedRpm, Call.requests],
      by simp [storedCost_eq, carriedCost, Call.cost],
      by simp [storedTripped, Call.flag?, Call.keyId]⟩
  | addCost keyId costMicrodollars =>
    obtain ⟨current, read, rfl⟩ := Option.map_eq_some_iff.mp written
    refine ⟨by simp [storedRpm, Call.requests], ?_, by simp [storedTripped, Call.flag?]⟩
    rw [read, Option.map_some, Call.cost, Call.keyId, if_pos rfl]
    exact stringToBigInt_toString (current + costMicrodollars)

/-- Only a cost that is added to one that cannot be read leaves the record as it is. -/
theorem Follows.unreadable {call : Call} {existing : Option StoredMetrics}
    (thrown : rewrite existing call = none) : Follows call.keyId call existing existing := by
  cases call with
  | incrementRPM keyId => cases thrown
  | updateCircuitBreaker keyId tripped => cases thrown
  | addCost keyId costMicrodollars =>
    have unread : storedCost existing = none := Option.map_eq_none_iff.mp thrown
    exact ⟨by simp [Call.requests], by simp [unread], by simp [Call.flag?]⟩

theorem transact_follows {call : Call} (accepted : call.accepted = true) (storage : MetricsStorage)
    (keyId : String) :
    Follows keyId call (storage (getStorageKey keyId))
      (transact storage call (getStorageKey keyId)) := by
  rw [transact_accepted accepted]
  cases written : rewrite (storage (getStorageKey call.keyId)) call with
  | none =>
    by_cases own : call.keyId = keyId
    · subst own
      exact .unreadable written
    · exact .unconcerned own _
  | some updated =>
    rw [Option.elim_some]
    by_cases own : call.keyId = keyId
    · subst own
      rw [put_self]
      exact .rewritten written
    · rw [put_other storage updated fun same => own (getStorageKey_injective same)]
      exact .unconcerned own _

theorem transact_other {call : Call} {storageKey : String} (storage : MetricsStorage)
    (elsewhere : call.accepted = true → getStorageKey call.keyId ≠ storageKey) :
    transact storage call storageKey = storage storageKey := by
  cases accepted : call.accepted with
  | false => rw [transact_refused accepted]
  | true =>
    rw [transact_accepted accepted]
    cases rewrite (storage (getStorageKey call.keyId)) call with
    | none => rfl
    | some updated => exact put_other storage updated (elsewhere accepted)

/-- The flag written last. -/
def lastFlag (keyId : String) (calls : List Call) : Option Bool :=
  (calls.filterMap (Call.flag? keyId)).getLast?

/-- What is left of a key's record after a run of accepted calls. -/
structure Accumulated (keyId : String) (calls : List Call) (before after : Option StoredMetrics) :
    Prop where
  rpm : storedRpm after = storedRpm before + (calls.map (Call.requests keyId)).sum
  cost : storedCost after = (storedCost before).map (· + (calls.map (Call.cost keyId)).sum)
  tripped : storedTripped after = (lastFlag keyId calls).getD (storedTripped before)

theorem Accumulated.nil (keyId : String) (existing : Option StoredMetrics) :
    Accumulated keyId [] existing existing :=
  ⟨by simp, by simp, rfl⟩

theorem Accumulated.snoc {keyId : String} {calls : List Call} {call : Call}
    {before middle after : Option StoredMetrics} (run : Accumulated keyId calls before middle)
    (step : Follows keyId call middle after) :
    Accumulated keyId (calls ++ [call]) before after := by
  constructor
  · rw [step.rpm, run.rpm, List.map_append, List.sum_append, add_assoc]
    simp
  · rw [step.cost, run.cost, Option.map_map, List.map_append, List.sum_append]
    simp [Function.comp_def, add_assoc]
  · rw [step.tripped, run.tripped, lastFlag, lastFlag, List.filterMap_append]
    cases written : call.flag? keyId <;> simp [written]

theorem foldl_accumulated (initial : MetricsStorage) (order : List Call) (keyId : String) :
    Accumulated keyId (order.filter Call.accepted) (initial (getStorageKey keyId))
      (order.foldl transact initial (getStorageKey keyId)) := by
  induction order using List.reverseRecOn with
  | nil => exact .nil keyId _
  | append_singleton order call ih =>
    rw [List.foldl_append, List.filter_append]
    cases accepted : call.accepted with
    | false =>
      rw [List.foldl_cons, List.foldl_nil, transact_refused accepted, List.filter_cons, accepted,
        if_neg Bool.false_ne_true, List.filter_nil, List.append_nil]
      exact ih
    | true =>
      rw [List.filter_cons, accepted, if_pos rfl, List.filter_nil]
      exact ih.snoc (transact_follows accepted _ keyId)

theorem foldl_other {storageKey : String} (initial : MetricsStorage) (order : List Call)
    (elsewhere : ∀ call ∈ order, call.accepted = true → getStorageKey call.keyId ≠ storageKey) :
    order.foldl transact initial storageKey = initial storageKey := by
  induction order generalizing initial with
  | nil => rfl
  | cons call rest ih =>
    rw [List.foldl_cons, ih _ fun other mem => elsewhere other (List.mem_cons_of_mem _ mem)]
    exact transact_other initial (elsewhere call List.mem_cons_self)

end DOStorageAdapter

open DOStorageAdapter in
/-- What a set of calls leaves, when their transactions ran in the order given. -/
structure MetricsSettled (initial : MetricsStorage) (calls order : List Call)
    (final : MetricsStorage) : Prop where
  rpm : ∀ keyId, storedRpm (final (getStorageKey keyId)) =
    storedRpm (initial (getStorageKey keyId)) +
      ((calls.filter Call.accepted).map (Call.requests keyId)).sum
  cost : ∀ keyId, storedCost (final (getStorageKey keyId)) =
    (storedCost (initial (getStorageKey keyId))).map
      (· + ((calls.filter Call.accepted).map (Call.cost keyId)).sum)
  tripped : ∀ keyId, storedTripped (final (getStorageKey keyId)) =
    (lastFlag keyId (order.filter Call.accepted)).getD
      (storedTripped (initial (getStorageKey keyId)))
  others : ∀ storageKey,
    (∀ call ∈ calls, call.accepted = true → getStorageKey call.keyId ≠ storageKey) →
      final storageKey = initial storageKey
  refused : ∀ call ∈ calls, call.accepted = false → ∀ storage,
    (∃ error, run storage call = .error error) ∧ transact storage call = storage

open DOStorageAdapter in
/-- No update is lost, in whatever order the transactions run. -/
theorem metrics_settled (initial : MetricsStorage) (calls order : List Call)
    (reordered : order.Perm calls) :
    MetricsSettled initial calls order (order.foldl transact initial) where
  rpm keyId := by
    rw [(foldl_accumulated initial order keyId).rpm,
      ((reordered.filter _).map (Call.requests keyId)).sum_eq]
  cost keyId := by
    rw [(foldl_accumulated initial order keyId).cost,
      ((reordered.filter _).map (Call.cost keyId)).sum_eq]
  tripped keyId := (foldl_accumulated initial order keyId).tripped
  others storageKey elsewhere :=
    foldl_other initial order fun call mem => elsewhere call (reordered.mem_iff.mp mem)
  refused call _ refused storage := ⟨run_refused refused storage, transact_refused refused storage⟩

section

open DOStorageAdapter

/-- Each operation once, and one that is refused. -/
def mixedCalls : List Call :=
  [.incrementRPM "k", .addCost "k" 5, .updateCircuitBreaker "k" true, .addCost "k" (-1)]

/-- A record with its cost as a `bigint`. -/
def bigintStorage : MetricsStorage :=
  put (fun _ => none) "metrics:k" ⟨some 2, some false, some (.bigint 9007199254740993)⟩

theorem metrics_settled_mixed :
    let final := mixedCalls.reverse.foldl transact bigintStorage
    MetricsSettled bigintStorage mixedCalls mixedCalls.reverse final ∧
      getMetrics final "k" = .ok (some ⟨3, true, 9007199254740998⟩) := by
  intro final
  have settled : MetricsSettled bigintStorage mixedCalls mixedCalls.reverse final :=
    metrics_settled bigintStorage mixedCalls mixedCalls.reverse (List.reverse_perm mixedCalls)
  refine ⟨settled, ?_⟩
  have rpm := settled.rpm "k"
  have cost := settled.cost "k"
  have tripped := settled.tripped "k"
  cases found : final (getStorageKey "k") with
  | none =>
    rw [found] at tripped
    exact absurd tripped (by decide)
  | some stored =>
    rw [found] at rpm cost tripped
    rw [getMetrics_eq (by decide) final found, rpm, cost, tripped]
    rfl

end

end KeyCollective
