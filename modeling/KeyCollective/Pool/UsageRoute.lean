import KeyCollective.Json
import KeyCollective.Pool.Dispatch
import KeyCollective.Pool.Rpc

/-!
# The usage route of a pool

`POST /keys/usage` with any body. A tenant that is no string is kept under a name; two objects
are never the same tenant.
-/

namespace KeyCollective.KeyPool

inductive UsageError where
  | pool (error : PoolError)
  /-- `BigInt` of a string it cannot read. -/
  | syntaxError
  /-- `BigInt` of a number that is not finite. -/
  | rangeError
deriving DecidableEq

/-- The cost as the route converts it. -/
def usageCost : Option Json → Except UsageError Int
  | some (.number (.finite x)) => .ok ⌊x⌋
  | some (.number _) => .error .rangeError
  | some (.string s) =>
    match stringToBigInt s with
    | some n => .ok n
    | none => .error .syntaxError
  | _ => .ok 0

structure UsageRequest where
  headerTenant : Option String
  /-- The body, unless it is no JSON. -/
  body : Option Json
  now : Int
  /-- What the database answers if the pool loads itself. -/
  db : Option (List KeyRow)

structure UsageAnswer where
  keyId : String
  cost : Int
deriving DecidableEq

variable (pool : KeyPool) (nameOf : Json → String)

def assertBodyTenant (st : State) (tenantId : Option Json) : Outcome Unit :=
  match tenantId with
  | none => (.ok (), st)
  | some (.string tenantId) => pool.assertTenant st (some tenantId) none
  | some value =>
    let tenantId := nameOf value
    if ¬Json.isTruthy (some value) then (.ok (), st)
    else if st.tenantId = pool.idString ∨ ¬value.isObject ∧ st.tenantId = tenantId then
      (.ok (), { st with tenantId })
    else
      (.error (.tenantIsolation (isolationMessage tenantId st.tenantId) st.tenantId tenantId none),
        st)

/-- `recordUsage` under whatever the body has as a key id. -/
def recordUsageOf (st : State) (keyId : Option Json) (costMicrodollars now : Int)
    (db : Option (List KeyRow)) : Outcome String :=
  match keyId with
  | some (.string id) =>
    (pool.recordUsage st id costMicrodollars now db).andThen fun _ st => (.ok id, st)
  | keyId =>
    if Json.isTruthy keyId then (.error .typeError, st)
    else (.error (.invalidKey "Key ID cannot be empty" none), st)

def postUsage (st : State) (request : UsageRequest) : Except UsageError UsageAnswer × State :=
  match pool.assertTenant st request.headerTenant none with
  | (.error e, st) => (.error (.pool e), st)
  | (.ok (), st) =>
    match request.body.getD (.object []) with
    | .null => (.error (.pool .typeError), st)
    | body =>
      match pool.assertBodyTenant nameOf st (body.get "tenantId") with
      | (.error e, st) => (.error (.pool e), st)
      | (.ok (), st) =>
        match usageCost (body.get "costMicrodollars") with
        | .error e => (.error e, st)
        | .ok cost =>
          match pool.recordUsageOf st (body.get "keyId") cost request.now request.db with
          | (.error e, st) => (.error (.pool e), st)
          | (.ok keyId, st) => (.ok { keyId, cost }, st)

/-! ## What a report costs -/

def UsageRequest.costMicrodollars (request : UsageRequest) : Option Json :=
  (request.body.getD (.object [])).get "costMicrodollars"

/-- `totalCostMicrodollars` of a key's counters. -/
def accumulatedCost (st : State) (id : String) : Int :=
  (pool.rateLimiter.load st.selector.health.limiter id).totalCostMicrodollars

theorem load_increment (r : RateLimiter) (s : RateLimiter.Store) (id other : String)
    (cost now : Int) :
    (r.load (r.increment s (some id) cost now) other).totalCostMicrodollars =
      (r.load s other).totalCostMicrodollars + if other = id then cost else 0 := by
  by_cases same : other = id
  · subst same
    simp only [RateLimiter.increment, RateLimiter.load, RateLimiter.resolveKeyId_some,
      CachedStore.load_save_self, if_true]
    rfl
  · have agree : CachedStore.AgreeAt r.getStorageKey other (r.increment s (some id) cost now) s :=
      r.increment_agreeAt s (some id) cost now same
    rw [if_neg same, Int.add_zero, RateLimiter.load, agree.load]
    rfl

theorem assertTenant_selector (st : State) (target resourceId : Option String) :
    (pool.assertTenant st target resourceId).2.selector = st.selector := by
  unfold assertTenant
  cases pool.bindTenant st.tenantId target <;> rfl

theorem assertBodyTenant_selector (st : State) (tenantId : Option Json) :
    (pool.assertBodyTenant nameOf st tenantId).2.selector = st.selector := by
  unfold assertBodyTenant
  split
  · rfl
  · exact pool.assertTenant_selector st _ none
  · simp only
    split_ifs <;> rfl

theorem recordUsageOf_cases (st : State) (keyId : Option Json) (cost now : Int)
    (db : Option (List KeyRow)) :
    (∃ e st', pool.recordUsageOf st keyId cost now db = (.error e, st') ∧
      st'.selector.health = st.selector.health) ∨
    ∃ id st', pool.recordUsageOf st keyId cost now db = (.ok id, st') ∧
      st'.selector.health.limiter =
        pool.rateLimiter.increment st.selector.health.limiter (some id) cost now := by
  unfold recordUsageOf
  split
  · rename_i id
    rcases pool.reportOn_cases st id db fun st =>
        let st := mapLimiter st fun s => pool.rateLimiter.increment s (some id) cost now
        { st with selector := KeySelector.recordUsage st.selector id } with
      ⟨e, st', failed, kept⟩ | ⟨st', reported, kept⟩
    · left
      rw [recordUsage, failed]
      exact ⟨e, st', rfl, kept⟩
    · right
      rw [recordUsage, reported]
      refine ⟨id, _, rfl, ?_⟩
      rw [← kept]
      rfl
  · left
    split
    · exact ⟨_, st, rfl, rfl⟩
    · exact ⟨_, st, rfl, rfl⟩

/-- A report is rejected and no counter changes, or its cost is added to the counters of one
key. -/
theorem postUsage_cases (st : State) (request : UsageRequest) :
    (∃ e st', pool.postUsage nameOf st request = (.error e, st') ∧
      st'.selector.health.limiter = st.selector.health.limiter) ∨
    ∃ answer st', pool.postUsage nameOf st request = (.ok answer, st') ∧
      usageCost request.costMicrodollars = .ok answer.cost ∧
      st'.selector.health.limiter = pool.rateLimiter.increment st.selector.health.limiter
        (some answer.keyId) answer.cost request.now := by
  have header := pool.assertTenant_selector st request.headerTenant none
  unfold postUsage UsageRequest.costMicrodollars
  revert header
  rcases pool.assertTenant st request.headerTenant none with ⟨_ | _, bound⟩
  · intro header
    exact Or.inl ⟨_, bound, rfl, by rw [header]⟩
  intro header
  generalize request.body.getD (.object []) = body
  simp only at header ⊢
  split
  · exact Or.inl ⟨_, bound, rfl, by rw [header]⟩
  have named := pool.assertBodyTenant_selector nameOf bound (body.get "tenantId")
  revert named
  rcases pool.assertBodyTenant nameOf bound (body.get "tenantId") with ⟨_ | _, joined⟩
  · intro named
    exact Or.inl ⟨_, joined, rfl, by rw [named, header]⟩
  intro named
  simp only at named ⊢
  cases converted : usageCost (body.get "costMicrodollars") with
  | error e => exact Or.inl ⟨e, joined, rfl, by rw [named, header]⟩
  | ok cost =>
    rcases pool.recordUsageOf_cases joined (body.get "keyId") cost request.now request.db with
      ⟨e, st', failed, kept⟩ | ⟨id, st', recorded, added⟩
    · simp only [failed]
      exact Or.inl ⟨_, st', rfl, by rw [kept, named, header]⟩
    · simp only [recorded]
      refine Or.inr ⟨⟨id, cost⟩, st', rfl, rfl, ?_⟩
      rw [added, named, header]

/-- A body with a cost the route converts, of a key and perhaps a tenant that are strings, is a
report of the pool's RPC. -/
theorem postUsage_eq_rpc [Host] (st : State) {request : UsageRequest} {body : Json}
    {tenantId : Option String} {id : String} {cost : Int} (parsed : request.body = some body)
    (tenant : body.get "tenantId" = tenantId.map .string)
    (key : body.get "keyId" = some (.string id))
    (converted : usageCost (body.get "costMicrodollars") = .ok cost) :
    (pool.postUsage nameOf st request).2 =
      (pool.handleKeyPoolRpc st ⟨request.headerTenant, .recordUsage tenantId id cost, request.now,
        request.db⟩).2 := by
  unfold postUsage handleKeyPoolRpc serveRoute Outcome.andThen
  rcases pool.assertTenant st request.headerTenant none with ⟨_ | _, bound⟩
  · rfl
  have named : pool.assertBodyTenant nameOf bound (body.get "tenantId") =
      pool.assertTenant bound tenantId none := by
    rw [tenant]
    cases tenantId with
    | none => rfl
    | some name => rfl
  simp only [parsed, Option.getD_some]
  split
  · cases key
  simp only [named]
  rcases pool.assertTenant bound tenantId none with ⟨_ | _, joined⟩
  · rfl
  simp only [converted, key, recordUsageOf, Outcome.andThen, Outcome.answer]
  rcases pool.recordUsage joined id cost request.now request.db with ⟨_ | _, st'⟩ <;> rfl

end KeyCollective.KeyPool
