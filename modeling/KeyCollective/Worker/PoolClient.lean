import KeyCollective.Lib.Transition
import KeyCollective.Pool.Rpc
import KeyCollective.Router.Communal

/-!
# The pool's client

A worker reports to a tenant's pool by a method of its stub or, when that fails with an
error that reads as if the stub had no such method, by a request. What becomes of either
attempt on its way is an input.
-/

namespace KeyCollective

/-- What becomes of an attempt to reach the pool. -/
inductive Delivery where
  /-- It fails before the pool sees it. -/
  | lost (message : String)
  | served
  /-- The pool serves it, and the answer is lost to an error. -/
  | broken (message : String)
deriving DecidableEq, Repr

def Delivery.reaches : Delivery → Bool
  | .lost _ => false
  | .served | .broken _ => true

/-- How the stub takes one report. `rpc` is `none` when it has no such method. -/
structure StubBehaviour where
  rpc : Option Delivery
  http : Delivery
deriving DecidableEq, Repr

inductive ClientReport where
  | recordUsage (keyId : String) (costMicrodollars : Int)
  | recordResult (keyId : String) (success : Bool)
  | recordStatusCode (keyId : String) (statusCode : Nat)
deriving DecidableEq, Repr

def ClientReport.keyId : ClientReport → String
  | .recordUsage keyId _ | .recordResult keyId _ | .recordStatusCode keyId _ => keyId

/-- A report, the stub it meets, and the clock and the database of either attempt. -/
structure ClientCall where
  report : ClientReport
  stub : StubBehaviour
  rpcNow : Int
  rpcDb : Option (List KeyRow)
  httpNow : Int
  httpDb : Option (List KeyRow)

/-- What came of one attempt. -/
structure Attempted where
  thrown : Option String
  applied : Bool
  /-- The stub reports success. -/
  acknowledged : Bool
  pool : KeyPool.State

/-- What came of a report. -/
structure Reported where
  result : Except String Unit
  /-- How often the pool carried it out. -/
  applied : Nat
  acknowledged : Bool

/-- The constructor refuses a blank tenant. -/
structure DurableObjectKeyPoolClient where
  tenantId : String
  named : isBlank tenantId = false

namespace DurableObjectKeyPoolClient

structure State where
  rpcDisabled : Bool
  pool : KeyPool.State

def isRpcError (message : String) : Bool :=
  includes message "does not support RPC" || includes message "does not implement the method" ||
    includes message "RPC receiver" || includes message "internal error"

/-- An attempt the pool serves with `outcome`. `refusal` is what the caller catches when the
pool refuses. -/
def attempt {α : Type} (refusal : PoolError → Option String) (delivery : Delivery)
    (st : KeyPool.State) (outcome : KeyPool.Outcome α) : Attempted :=
  match delivery, outcome with
  | .lost message, _ => ⟨some message, false, false, st⟩
  | .served, (.ok _, st) => ⟨none, true, true, st⟩
  | .served, (.error e, st) => ⟨refusal e, false, false, st⟩
  | .broken message, (.ok _, st) => ⟨some message, true, false, st⟩
  | .broken message, (.error _, st) => ⟨some message, false, false, st⟩

variable [Host] (pool : KeyPool) (client : DurableObjectKeyPoolClient)

/-- The request of the fallback. The client does not look at the response's status. -/
def fetchReport (route : KeyPool.Route) (call : ClientCall) (st : State) (applied : Nat) :
    Reported × State :=
  let made := attempt (fun _ => none) call.stub.http st.pool
    (pool.handleKeyPoolRpc st.pool ⟨some client.tenantId, route, call.httpNow, call.httpDb⟩)
  (⟨match made.thrown with
      | some message => .error message
      | none => .ok (), applied + made.applied.toNat, made.acknowledged⟩,
    { st with pool := made.pool })

/-- The three reports differ in the method and in the route. -/
def sendReport (method : KeyPool.State → KeyPool.Outcome Unit) (route : KeyPool.Route)
    (call : ClientCall) (st : State) : Reported × State :=
  match call.stub.rpc with
  | some delivery =>
    if st.rpcDisabled then client.fetchReport pool route call st 0
    else
      let made := attempt (fun e => some e.message) delivery st.pool (method st.pool)
      match made.thrown with
      | none => (⟨.ok (), made.applied.toNat, made.acknowledged⟩, { st with pool := made.pool })
      | some message =>
        if isRpcError message then
          client.fetchReport pool route call ⟨true, made.pool⟩ made.applied.toNat
        else
          (⟨.error message, made.applied.toNat, made.acknowledged⟩, { st with pool := made.pool })
  | none => client.fetchReport pool route call st 0

def recordUsage (keyId : String) (costMicrodollars : Int) (call : ClientCall) (st : State) :
    Reported × State :=
  client.sendReport pool
    (fun st => pool.recordUsage st keyId costMicrodollars call.rpcNow call.rpcDb)
    (.recordUsage (some client.tenantId) keyId costMicrodollars) call st

def recordResult (keyId : String) (success : Bool) (call : ClientCall) (st : State) :
    Reported × State :=
  client.sendReport pool (fun st => pool.recordResult st keyId success call.rpcNow call.rpcDb)
    (.recordResult (some client.tenantId) keyId success) call st

def recordStatusCode (keyId : String) (statusCode : Nat) (call : ClientCall) (st : State) :
    Reported × State :=
  client.sendReport pool
    (fun st => pool.recordStatusCode st keyId statusCode call.rpcNow call.rpcDb)
    (.recordStatusCode (some client.tenantId) keyId statusCode) call st

def serve (st : State) (call : ClientCall) : Reported × State :=
  match call.report with
  | .recordUsage keyId costMicrodollars => client.recordUsage pool keyId costMicrodollars call st
  | .recordResult keyId success => client.recordResult pool keyId success call st
  | .recordStatusCode keyId statusCode => client.recordStatusCode pool keyId statusCode call st

def step (st : State) (call : ClientCall) : State := (client.serve pool st call).2

/-- The report is carried out at most once, and once when the stub says so. -/
def AppliedOnce (st : State) (call : ClientCall) : Prop :=
  (client.serve pool st call).1.applied ≤ 1 ∧
    ((client.serve pool st call).1.acknowledged = true →
      (client.serve pool st call).1.applied = 1)

end DurableObjectKeyPoolClient

/-! ## What a report does to the pool -/

/-- What a pool that holds the key makes of a report on it. -/
def ClientReport.effect (pool : KeyPool) (report : ClientReport) (now : Int)
    (st : KeyPool.State) : KeyPool.State :=
  match report with
  | .recordUsage keyId costMicrodollars =>
    let st := KeyPool.mapLimiter st fun s =>
      pool.rateLimiter.increment s (some keyId) costMicrodollars now
    { st with selector := KeySelector.recordUsage st.selector keyId }
  | .recordResult keyId success =>
    KeyPool.mapBreaker st fun s => pool.circuitBreaker.recordResult s keyId success now
  | .recordStatusCode keyId statusCode =>
    KeyPool.mapBreaker st fun s => pool.circuitBreaker.recordStatusCode s keyId statusCode now

theorem ClientReport.effect_same (pool : KeyPool) (report : ClientReport) (now : Int)
    (st : KeyPool.State) :
    (report.effect pool now st).isLoaded = st.isLoaded ∧
      (report.effect pool now st).keysMap = st.keysMap := by
  cases report <;> exact ⟨rfl, rfl⟩

namespace ClientCall

variable (pool : KeyPool)

/-- The method of the stub. -/
def perform (call : ClientCall) (st : KeyPool.State) : KeyPool.Outcome Unit :=
  match call.report with
  | .recordUsage keyId costMicrodollars =>
    pool.recordUsage st keyId costMicrodollars call.rpcNow call.rpcDb
  | .recordResult keyId success => pool.recordResult st keyId success call.rpcNow call.rpcDb
  | .recordStatusCode keyId statusCode =>
    pool.recordStatusCode st keyId statusCode call.rpcNow call.rpcDb

/-- The route of the fallback. -/
def route (call : ClientCall) (tenantId : String) : KeyPool.Route :=
  match call.report with
  | .recordUsage keyId costMicrodollars => .recordUsage (some tenantId) keyId costMicrodollars
  | .recordResult keyId success => .recordResult (some tenantId) keyId success
  | .recordStatusCode keyId statusCode => .recordStatusCode (some tenantId) keyId statusCode

end ClientCall

namespace KeyPool

/-- A pool that has loaded itself and holds the key. -/
structure Tracks (st : State) (id : String) : Prop where
  named : isBlank id = false
  loaded : st.isLoaded = true
  held : st.keysMap.has id = true

variable {pool : KeyPool} {st st' : State} {id : String} {db : Option (List KeyRow)}
  {report : State → State}

/-- A report that is taken leaves the pool tracking the key. -/
theorem tracks_of_reportOn (same : ∀ st, (report st).isLoaded = st.isLoaded ∧
      (report st).keysMap = st.keysMap)
    (ok : pool.reportOn st id db report = (.ok (), st')) : Tracks st' id := by
  unfold reportOn at ok
  split at ok
  · cases ok
  · rename_i named
    revert ok
    cases loading : pool.ensureLoaded st db with
    | mk result loaded =>
      cases result with
      | error e => rintro ⟨⟩
      | ok =>
        simp only
        split
        · rintro ⟨⟩
          rename_i held
          refine ⟨by simpa using named, ?_, ?_⟩
          · rw [(same loaded).1]
            exact ensureLoaded_isLoaded loading
          · rw [(same loaded).2]
            exact held
        · rintro ⟨⟩

/-- A pool that tracks the key takes a report on it. -/
theorem Tracks.reportOn (tracks : Tracks st id) :
    pool.reportOn st id db report = (.ok (), report st) := by
  simp only [KeyPool.reportOn, tracks.named, ensureLoaded_loaded pool tracks.loaded, tracks.held,
    Bool.false_eq_true, ↓reduceIte]

theorem isFalsy_named {tenantId : String} (named : isBlank tenantId = false) :
    isFalsy (some tenantId) = false := by
  simp only [isFalsy, decide_eq_false_iff_not]
  rintro rfl
  exact absurd named (by decide)

theorem bindTenant_isSome (pool : KeyPool) (current : String) {tenantId : String} (named : isBlank tenantId = false) :
    (pool.bindTenant current (some tenantId)).isSome ↔
      current = tenantId ∨ current = pool.idString := by
  simp only [bindTenant, isFalsy_named named, Bool.false_eq_true, ↓reduceIte, Option.some.injEq]
  by_cases unbound : current = pool.idString
  · simp [unbound]
  · by_cases same : tenantId = current
    · simp [unbound, same]
    · simp [unbound, same, Ne.symm same]

end KeyPool

namespace DurableObjectKeyPoolClient

variable [Host] {pool : KeyPool} {client : DurableObjectKeyPoolClient}

theorem serve_eq (st : State) (call : ClientCall) :
    client.serve pool st call =
      client.sendReport pool (call.perform pool) (call.route client.tenantId) call st := by
  unfold serve ClientCall.perform ClientCall.route
  cases call.report <;> rfl

omit [Host] in
theorem perform_eq (call : ClientCall) (st : KeyPool.State) :
    call.perform pool st =
      pool.reportOn st call.report.keyId call.rpcDb (call.report.effect pool call.rpcNow) := by
  unfold ClientCall.perform
  cases call.report <;> rfl

theorem serveRoute_eq (call : ClientCall) (tenantId : String) (st : KeyPool.State) :
    pool.serveRoute tenantId st (call.route client.tenantId) call.httpNow call.httpDb =
      (pool.assertTenant st (some client.tenantId) none).andThen fun _ st =>
        (pool.reportOn st call.report.keyId call.httpDb
          (call.report.effect pool call.httpNow)).answer fun _ => .recorded := by
  unfold ClientCall.route
  cases call.report <;> rfl

/-- Once the method has carried a report out, so does the request, in a pool that is the
client's or nobody's. -/
theorem request_repeats (client : DurableObjectKeyPoolClient) {st st' : KeyPool.State} {call : ClientCall}
    (performed : call.perform pool st = (.ok (), st')) :
    (∃ answer last, pool.handleKeyPoolRpc st' ⟨some client.tenantId, call.route client.tenantId,
        call.httpNow, call.httpDb⟩ = (.ok answer, last)) ↔
      st'.tenantId = client.tenantId ∨ st'.tenantId = pool.idString := by
  have tracks : KeyPool.Tracks st' call.report.keyId :=
    KeyPool.tracks_of_reportOn (call.report.effect_same pool call.rpcNow)
      ((perform_eq call st).symm.trans performed)
  rw [← KeyPool.bindTenant_isSome pool st'.tenantId client.named]
  simp only [KeyPool.handleKeyPoolRpc, serveRoute_eq, KeyPool.assertTenant]
  cases first : pool.bindTenant st'.tenantId (some client.tenantId) with
  | none => simp [KeyPool.Outcome.andThen]
  | some bound =>
    -- The pool is the client's by now, and the body names the same tenant.
    have own : bound = client.tenantId ∨ bound = pool.idString := by
      simp only [KeyPool.bindTenant, KeyPool.isFalsy_named client.named, Bool.false_eq_true,
        ↓reduceIte] at first
      split at first
      · exact Or.inl (Option.some.inj first).symm
      · split at first
        · rename_i same
          exact Or.inl ((Option.some.inj first).symm.trans (Option.some.inj same).symm)
        · cases first
    obtain ⟨again, second⟩ := Option.isSome_iff_exists.mp
      ((KeyPool.bindTenant_isSome pool bound client.named).mpr own)
    have tracked : KeyPool.Tracks { st' with tenantId := again } call.report.keyId :=
      ⟨tracks.named, tracks.loaded, tracks.held⟩
    simp only [KeyPool.Outcome.andThen, second, KeyPool.Outcome.answer, tracked.reportOn,
      Option.isSome_some, iff_true]
    exact ⟨_, _, rfl⟩

variable (pool client)

/-- The method carries the report out and then throws an error that reads as if there were
no method, and the request reaches a pool that takes it. -/
structure Repeats (st : State) (call : ClientCall) : Prop where
  enabled : st.rpcDisabled = false
  misread : ∃ message, call.stub.rpc = some (.broken message) ∧ isRpcError message = true
  performed : (call.perform pool st.pool).1 = .ok ()
  reaches : call.stub.http.reaches = true
  bound : (call.perform pool st.pool).2.tenantId = client.tenantId ∨
    (call.perform pool st.pool).2.tenantId = pool.idString

/-! ## Reports applied once -/

section Attempts

variable {α : Type} {refusal : PoolError → Option String} {delivery : Delivery}
  {st : KeyPool.State} {outcome : KeyPool.Outcome α}

omit [Host] in
theorem attempt_applied :
    (attempt refusal delivery st outcome).applied = true ↔
      delivery.reaches = true ∧ ∃ a last, outcome = (.ok a, last) := by
  rcases outcome with ⟨_ | a, last⟩ <;> cases delivery <;> simp [attempt, Delivery.reaches]

omit [Host] in
theorem attempt_acknowledged (acknowledged : (attempt refusal delivery st outcome).acknowledged = true) :
    (attempt refusal delivery st outcome).applied = true := by
  rcases outcome with ⟨_ | a, last⟩ <;> cases delivery <;> simp_all [attempt]

omit [Host] in
/-- An attempt that throws after the pool took the report. -/
theorem attempt_thrown {message : String}
    (thrown : (attempt refusal delivery st outcome).thrown = some message)
    (applied : (attempt refusal delivery st outcome).applied = true) :
    delivery = .broken message ∧ (attempt refusal delivery st outcome).pool = outcome.2 := by
  rcases outcome with ⟨_ | a, last⟩ <;> cases delivery <;> simp_all [attempt]

end Attempts

/-- The request alone carries the report out at most once. -/
theorem fetchReport_applied (route : KeyPool.Route) (call : ClientCall) (st : State)
    (applied : Nat) :
    (((client.fetchReport pool route call st applied).1.applied = applied + 1 ∧
        call.stub.http.reaches = true ∧ ∃ answer last, pool.handleKeyPoolRpc st.pool
          ⟨some client.tenantId, route, call.httpNow, call.httpDb⟩ = (.ok answer, last)) ∨
      ((client.fetchReport pool route call st applied).1.applied = applied ∧
        (client.fetchReport pool route call st applied).1.acknowledged = false ∧
        ¬ (call.stub.http.reaches = true ∧ ∃ answer last, pool.handleKeyPoolRpc st.pool
          ⟨some client.tenantId, route, call.httpNow, call.httpDb⟩ = (.ok answer, last)))) := by
  simp only [fetchReport]
  generalize made : attempt (fun _ => none) call.stub.http st.pool (pool.handleKeyPoolRpc st.pool
    ⟨some client.tenantId, route, call.httpNow, call.httpDb⟩) = attempted
  cases applies : attempted.applied with
  | true =>
    rw [← made] at applies
    exact Or.inl ⟨rfl, attempt_applied.mp applies⟩
  | false =>
    refine Or.inr ⟨rfl, ?_, ?_⟩
    · by_contra acknowledged
      rw [← made] at applies acknowledged
      rw [attempt_acknowledged (by simpa using acknowledged)] at applies
      cases applies
    · rw [← made] at applies
      rw [← attempt_applied, applies]
      decide

/-- A report is carried out at most once, and once when the stub says so, unless the request
repeats what the method did. -/
theorem appliedOnce_iff (st : State) (call : ClientCall) :
    client.AppliedOnce pool st call ↔ ¬ client.Repeats pool st call := by
  have alone : ∀ st', (client.fetchReport pool (call.route client.tenantId) call st' 0).1.applied ≤ 1 ∧
      ((client.fetchReport pool (call.route client.tenantId) call st' 0).1.acknowledged = true →
        (client.fetchReport pool (call.route client.tenantId) call st' 0).1.applied = 1) := by
    intro st'
    rcases fetchReport_applied pool client (call.route client.tenantId) call st' 0 with
      ⟨once, -⟩ | ⟨never, unacknowledged, -⟩
    · rw [once]
      exact ⟨le_refl 1, fun _ => rfl⟩
    · rw [never, unacknowledged]
      exact ⟨Nat.zero_le 1, fun said => absurd said Bool.false_ne_true⟩
  unfold AppliedOnce
  rw [serve_eq]
  unfold sendReport
  cases method : call.stub.rpc with
  | none =>
    refine ⟨fun _ repeats => ?_, fun _ => alone st⟩
    obtain ⟨message, broken, -⟩ := repeats.misread
    rw [method] at broken
    cases broken
  | some delivery =>
    by_cases disabled : st.rpcDisabled = true
    · simp only [disabled, ↓reduceIte]
      refine ⟨fun _ repeats => ?_, fun _ => alone st⟩
      exact absurd (disabled.symm.trans repeats.enabled) (by decide)
    · simp only [disabled, Bool.false_eq_true, ↓reduceIte]
      generalize made : attempt (fun e => some e.message) delivery st.pool
        (call.perform pool st.pool) = attempted
      -- The method alone carries the report out at most once, and once when it returns.
      have single : attempted.applied.toNat ≤ 1 ∧
          (attempted.acknowledged = true → attempted.applied.toNat = 1) := by
        refine ⟨Bool.toNat_le _, fun acknowledged => ?_⟩
        rw [← made] at acknowledged ⊢
        rw [attempt_acknowledged acknowledged]
        rfl
      have repeated (repeats : client.Repeats pool st call) : ∃ message,
          attempted.thrown = some message ∧ isRpcError message = true ∧
            attempted.applied = true := by
        obtain ⟨message, broken, misread⟩ := repeats.misread
        obtain rfl : delivery = .broken message := Option.some.inj (method.symm.trans broken)
        have performed : call.perform pool st.pool = (.ok (), (call.perform pool st.pool).2) :=
          Prod.ext repeats.performed rfl
        rw [performed] at made
        exact ⟨message, by rw [← made]; rfl, misread, by rw [← made]; rfl⟩
      cases thrown : attempted.thrown with
      | none =>
        refine ⟨fun _ repeats => ?_, fun _ => single⟩
        obtain ⟨message, eq, -⟩ := repeated repeats
        rw [thrown] at eq
        cases eq
      | some message =>
        by_cases misread : isRpcError message = true
        · simp only [misread, ↓reduceIte]
          cases applies : attempted.applied with
          | false =>
            refine ⟨fun _ repeats => ?_, fun _ => alone _⟩
            obtain ⟨-, -, -, applied⟩ := repeated repeats
            exact absurd (applies.symm.trans applied) (by decide)
          | true =>
            rw [← made] at thrown applies
            obtain ⟨rfl, last⟩ := attempt_thrown thrown applies
            obtain ⟨-, ⟨⟩, after, performed⟩ := attempt_applied.mp applies
            rw [performed] at last
            rw [← made, performed, last]
            have again := request_repeats client performed
            rcases fetchReport_applied pool client (call.route client.tenantId) call
              ⟨true, after⟩ 1 with ⟨twice, reaches, taken⟩ | ⟨once, unacknowledged, untaken⟩
            · refine ⟨fun holds => ?_, fun notRepeated => ?_⟩
              · have atMost := holds.1
                rw [Bool.toNat_true, twice] at atMost
                omega
              · refine absurd ⟨by simpa using disabled, ⟨message, method, misread⟩, ?_, reaches, ?_⟩
                  notRepeated
                · rw [performed]
                · rw [performed]
                  exact again.mp taken
            · refine ⟨fun _ repeats => ?_, fun _ => ?_⟩
              · have bound := repeats.bound
                rw [performed] at bound
                exact untaken ⟨repeats.reaches, again.mpr bound⟩
              · rw [Bool.toNat_true, once, unacknowledged]
                exact ⟨le_refl 1, fun said => absurd said Bool.false_ne_true⟩
        · simp only [misread, Bool.false_eq_true, ↓reduceIte]
          refine ⟨fun _ repeats => ?_, fun _ => single⟩
          obtain ⟨other, eq, misread', -⟩ := repeated repeats
          rw [thrown] at eq
          cases eq
          exact misread misread'

/-- In every run of reports, each is carried out at most once, and once when the stub says
so, exactly when no request repeats what a method did. -/
theorem reports_applied_once_iff (pool : KeyPool) (client : DurableObjectKeyPoolClient) (st : State)
    (calls : List ClientCall) :
    Transition.Guarded (client.step pool) (client.AppliedOnce pool) st calls ↔
      Transition.Guarded (client.step pool) (fun st call => ¬ client.Repeats pool st call) st
        calls :=
  ⟨fun run => run.imp fun st call => (appliedOnce_iff pool client st call).mp,
    fun run => run.imp fun st call => (appliedOnce_iff pool client st call).mpr⟩

end DurableObjectKeyPoolClient

section Examples

attribute [local instance] asciiHost

namespace DurableObjectKeyPoolClient

def acmePool : KeyPool := ⟨"0a1b", "acme", .create {}, .create {}⟩

def acmeClient : DurableObjectKeyPoolClient := ⟨"acme", by decide⟩

/-- The pool with one key. -/
def acmeState : State :=
  ⟨false, (acmePool.setKeys acmePool.start
    [{ id := "k1", tenantId := some "acme", provider := "groq", ciphertext := "c",
       nonce := "n" }]).2⟩

/-- A usage report whose method returns no answer. -/
def brokenUsage : ClientCall where
  report := .recordUsage "k1" 5
  stub := ⟨some (.broken "internal error; reference = 4f2c"), .served⟩
  rpcNow := 1000
  rpcDb := none
  httpNow := 1001
  httpDb := none

/-- The usage is recorded twice: two requests and twice the cost are counted on the key. -/
theorem usage_recorded_twice :
    (acmeClient.serve acmePool acmeState brokenUsage).1.acknowledged = true ∧
      (acmeClient.serve acmePool acmeState brokenUsage).1.applied = 2 ∧
      (acmePool.getKeyMetrics (acmeClient.step acmePool acmeState brokenUsage).pool "k1" 1002
        none).1 = .ok ⟨2, false, 10⟩ ∧
      ¬ acmeClient.AppliedOnce acmePool acmeState brokenUsage := by
  have twice : (acmeClient.serve acmePool acmeState brokenUsage).1.applied = 2 := by
    decide
  refine ⟨by decide, twice, by decide, fun once => ?_⟩
  have atMost := once.1
  rw [twice] at atMost
  exact absurd atMost (by decide)

end DurableObjectKeyPoolClient

end Examples

end KeyCollective
