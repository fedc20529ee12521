import KeyCollective.Json
import KeyCollective.Quota.TenantQuota

/-!
# The consume route of a tenant's object

`consumeQuota` with any body. The tier, the count, the project and the sub-cap of a body may be
of any type, and so may what an entry counts: an account keeps entries of any kind, and what
the checks come to is given with the request.
-/

namespace KeyCollective.Quota

/-- What storage holds of a tenant's costs. -/
structure StoredAccount (Entry : Type) where
  tenantId : String
  entries : List Entry
  totalCostMicrodollars : Int

/-- What a tenant's object holds of its costs. -/
structure Account (Entry : Type) where
  tenantId : String
  entries : List Entry
  totalCostMicrodollars : Int
  isLoaded : Bool
  storage : Option (StoredAccount Entry)

/-- What the checks come to. -/
inductive Verdict (Entry : Type) where
  | thrown
  | denied
  /-- Allowed, but only checked. -/
  | checked
  | admitted (newEntry : Entry)

inductive ConsumeError where
  | tenantIsolation (error : TenantIsolationError)
  | typeError
  /-- `BigInt` of a number that is not finite. -/
  | rangeError
deriving DecidableEq

/-- `toMicrodollars` of a field of a body. -/
def bodyMicrodollars : Option Json → Except ConsumeError Int
  | some (.number (.finite x)) => .ok (toMicrodollars (some (.number x)))
  | some (.number _) => .error .rangeError
  | some (.string s) => .ok (toMicrodollars (some (.string s)))
  | _ => .ok 0

structure BodyRequest (Entry : Type) where
  headerTenant : Option String
  /-- The body, unless it is no JSON. -/
  body : Option Json
  verdict : Verdict Entry
  loadedAt : Int
  now : Int
  persistedAt : Int

def BodyRequest.costMicrodollars {Entry : Type} (request : BodyRequest Entry) : Option Json :=
  (request.body.getD (.object [])).get "costMicrodollars"

namespace Account

variable {Entry : Type} (timestamp : Entry → Int) (rpdWindowMs : Int) (nameOf : Json → String)
  (account : Account Entry)

def pruneEntries (now : Int) : Account Entry :=
  { account with entries := account.entries.filter fun e => now - rpdWindowMs < timestamp e }

def readStorage : Account Entry :=
  match account.storage with
  | some stored =>
    { account with
      tenantId := if stored.tenantId ≠ "" then stored.tenantId else account.tenantId
      entries := stored.entries
      totalCostMicrodollars := stored.totalCostMicrodollars }
  | none => account

def ensureLoaded (now : Int) : Account Entry :=
  if account.isLoaded then account
  else { account.readStorage.pruneEntries timestamp rpdWindowMs now with isLoaded := true }

def persist (now : Int) : Account Entry :=
  let account := account.pruneEntries timestamp rpdWindowMs now
  { account with
    storage := some ⟨account.tenantId, account.entries, account.totalCostMicrodollars⟩ }

def isolationError (attempted : String) : ConsumeError :=
  .tenantIsolation
    { message := "Tenant isolation violation: attempt to access/mutate tenant '" ++ attempted ++
        "' in TenantQuotaDO for tenant '" ++ account.tenantId ++ "'"
      tenantId := some account.tenantId
      attemptedTenantId := some attempted }

/-- A tenant that is no string is not the account's. -/
def assertTenant (target : Option Json) : Except ConsumeError Unit :=
  match target with
  | none => .ok ()
  | some (.string target) =>
    if target ≠ "" ∧ target ≠ account.tenantId then .error (account.isolationError target)
    else .ok ()
  | some value =>
    if Json.isTruthy (some value) then .error (account.isolationError (nameOf value)) else .ok ()

/-- Whether a request is allowed, and the account after it. -/
def consumeQuota (body : Json) (verdict : Verdict Entry) (loadedAt now persistedAt : Int) :
    Except ConsumeError Bool × Account Entry :=
  match body with
  | .null => (.error .typeError, account)
  | body =>
    match account.assertTenant nameOf (body.get "tenantId") with
    | .error e => (.error e, account)
    | .ok () =>
      let account :=
        (account.ensureLoaded timestamp rpdWindowMs loadedAt).pruneEntries timestamp rpdWindowMs now
      match bodyMicrodollars (body.get "costMicrodollars") with
      | .error e => (.error e, account)
      | .ok incomingCost =>
        match verdict with
        | .thrown => (.error .typeError, account)
        | .denied => (.ok false, account)
        | .checked => (.ok true, account)
        | .admitted newEntry =>
          let account := { account with
            entries := account.entries ++ [newEntry]
            totalCostMicrodollars := account.totalCostMicrodollars + incomingCost }
          (.ok true, account.persist timestamp rpdWindowMs persistedAt)

def postConsume (request : BodyRequest Entry) : Except ConsumeError Bool × Account Entry :=
  match account.assertTenant nameOf (request.headerTenant.map .string) with
  | .error e => (.error e, account)
  | .ok () => account.consumeQuota timestamp rpdWindowMs nameOf (request.body.getD (.object []))
      request.verdict request.loadedAt request.now request.persistedAt

/-! ## What a request charges -/

/-- The total a loaded account has. -/
def total : Int :=
  if account.isLoaded then account.totalCostMicrodollars
  else account.readStorage.totalCostMicrodollars

/-- What a reader finds that loads at one instant and looks at another. -/
def seen (loadedAt now : Int) : Account Entry :=
  (account.ensureLoaded timestamp rpdWindowMs loadedAt).pruneEntries timestamp rpdWindowMs now

theorem seen_total (loadedAt now : Int) :
    (account.seen timestamp rpdWindowMs loadedAt now).total = account.total := by
  unfold seen ensureLoaded total
  cases loaded : account.isLoaded with
  | true => simp [pruneEntries, loaded]
  | false => simp [pruneEntries]

theorem seen_isLoaded (loadedAt now : Int) :
    (account.seen timestamp rpdWindowMs loadedAt now).isLoaded = true := by
  unfold seen ensureLoaded
  cases loaded : account.isLoaded with
  | true => exact loaded
  | false => rfl

/-- Reading changes nothing that the reader sees. -/
theorem seen_seen (loadedAt now : Int) :
    (account.seen timestamp rpdWindowMs loadedAt now).seen timestamp rpdWindowMs loadedAt now =
      account.seen timestamp rpdWindowMs loadedAt now := by
  have loaded := account.seen_isLoaded timestamp rpdWindowMs loadedAt now
  rw [seen, ensureLoaded, if_pos loaded]
  simp [seen, pruneEntries, List.filter_filter]

/-- A request that is let through adds its cost to the total. Any other leaves the account as it
is seen, the one with a cost that is not finite among them. -/
theorem postConsume_cases (request : BodyRequest Entry) :
    (((account.postConsume timestamp rpdWindowMs nameOf request).2 = account ∨
        (account.postConsume timestamp rpdWindowMs nameOf request).2 =
          account.seen timestamp rpdWindowMs request.loadedAt request.now)) ∨
    ∃ cost after, account.postConsume timestamp rpdWindowMs nameOf request = (.ok true, after) ∧
      bodyMicrodollars request.costMicrodollars = .ok cost ∧
      after.isLoaded = true ∧ after.totalCostMicrodollars = account.total + cost := by
  unfold postConsume BodyRequest.costMicrodollars
  generalize request.body.getD (.object []) = body
  split
  · exact Or.inl (Or.inl rfl)
  unfold consumeQuota
  split
  · exact Or.inl (Or.inl rfl)
  split
  · exact Or.inl (Or.inl rfl)
  simp only
  split
  · exact Or.inl (Or.inr rfl)
  rename_i cost converted
  split
  · exact Or.inl (Or.inr rfl)
  · exact Or.inl (Or.inr rfl)
  · exact Or.inl (Or.inr rfl)
  · refine Or.inr ⟨cost, _, rfl, converted, ?_, ?_⟩
    · exact account.seen_isLoaded timestamp rpdWindowMs request.loadedAt request.now
    · have same := account.seen_total timestamp rpdWindowMs request.loadedAt request.now
      rw [total, if_pos (account.seen_isLoaded ..)] at same
      rw [← same]
      rfl

end Account

/-! ## Bodies of the declared types -/

def TenantQuotaData.account (data : TenantQuotaData) : StoredAccount QuotaEntry :=
  ⟨data.tenantId, data.entries, data.totalCostMicrodollars⟩

/-- What an evaluation comes to. -/
def Evaluation.verdict (evaluation : Evaluation) : Verdict QuotaEntry :=
  match evaluation.newEntry with
  | some newEntry => .admitted newEntry
  | none => if evaluation.result.allowed then .checked else .denied

namespace TenantQuotaDO

open Account

/-- What an object's state holds of its costs. -/
def State.account (s : State) : Account QuotaEntry where
  tenantId := s.tenantId
  entries := s.entries
  totalCostMicrodollars := s.totalCostMicrodollars
  isLoaded := s.isLoaded
  storage := s.storage.map TenantQuotaData.account

variable (q : TenantQuotaDO) (nameOf : Json → String)

theorem account_pruneEntries (s : State) (now : Int) :
    (q.pruneEntries s now).account =
      s.account.pruneEntries QuotaEntry.timestamp q.rpdWindowMs now := rfl

theorem account_ensureLoaded (s : State) (now : Int) :
    (q.ensureLoaded s now).account =
      s.account.ensureLoaded QuotaEntry.timestamp q.rpdWindowMs now := by
  unfold ensureLoaded Account.ensureLoaded
  cases loaded : s.isLoaded with
  | true => simp [State.account, loaded]
  | false =>
    cases stored : s.storage <;>
      simp [State.account, loaded, readStorage, Account.readStorage, stored, restore, pruneEntries,
        Account.pruneEntries, TenantQuotaData.account]

theorem account_assertTenant (s : State) (target : Option String) :
    s.account.assertTenant nameOf (target.map .string) =
      (assertTenant s target).mapError ConsumeError.tenantIsolation := by
  cases target with
  | none => rfl
  | some target =>
    by_cases named : target = ""
    · subst named
      rfl
    have kept : (some target).filter (· ≠ "") = some target := by simp [named]
    unfold Account.assertTenant assertTenant
    rw [kept]
    by_cases same : target = s.tenantId
    · simp [Except.mapError, State.account, same]
    · simp [Except.mapError, State.account, isolationError, same, named]

/-- A body whose fields are of the declared types is consumed as the request it denotes. -/
theorem account_consumeQuota (s : State) (request : ConsumeQuotaRequest) {body : Json}
    (loadedAt now persistedAt : Int) (fields : body.isObject = true)
    (tenant : body.get "tenantId" = request.tenantId.map .string)
    (cost : bodyMicrodollars (body.get "costMicrodollars") =
      .ok (toMicrodollars request.costMicrodollars)) :
    (q.consumeQuota s request loadedAt now persistedAt).2.account =
      (s.account.consumeQuota QuotaEntry.timestamp q.rpdWindowMs nameOf body
        (evaluateQuota request
          (q.evaluationContext (q.pruneEntries (q.ensureLoaded s loadedAt) now) now)).verdict
        loadedAt now persistedAt).2 := by
  have named := account_assertTenant nameOf s request.tenantId
  rw [← tenant] at named
  have charged := evaluateQuota_incomingCost request
    (q.evaluationContext (q.pruneEntries (q.ensureLoaded s loadedAt) now) now)
  have some_body : body ≠ .null := by
    rintro rfl
    cases fields
  rw [consumeQuota, Account.consumeQuota]
  case x => exact some_body
  cases asserted : assertTenant s request.tenantId with
  | error e =>
    rw [asserted] at named
    simp only [named, Except.mapError]
  | ok =>
    rw [asserted] at named
    simp only [named, Except.mapError, cost, ← account_ensureLoaded, ← account_pruneEntries,
      ← charged]
    generalize evaluateQuota request
      (q.evaluationContext (q.pruneEntries (q.ensureLoaded s loadedAt) now) now) = evaluation
    unfold Evaluation.verdict
    cases evaluation.newEntry with
    | some newEntry => rfl
    | none => cases evaluation.result.allowed <;> rfl

end TenantQuotaDO

end KeyCollective.Quota
