import KeyCollective.Auth.FallbackLimiter
import KeyCollective.Auth.TenantQuota
import KeyCollective.Quota.Marked

/-!
# The limit of a token on the quota object

A token's record has a limit of its own, which the fallback limiter enforces. The quota
object is not told of it, and admits the token's requests by the tier of the tenant, or, of
a project, by an override.
-/

namespace KeyCollective.AuthMiddleware

open Quota TenantQuotaDO SlidingWindow

/-- What happens at the object of a token's tenant: a request with the token, or anything
else. -/
inductive TokenEvent where
  | request (transport : Transport) (ask : AdmitRequest) (loadedAt now persistedAt : Int)
  | other (call : TenantQuotaDO.Call)

/-- A run of the object, where the requests with the token are marked, and the instants at
which the middleware let one through. -/
structure TokenRun where
  watched : Watched
  letThrough : List Int

/-- The call that a request with the token makes. -/
def TokenEvent.call : TokenEvent → TenantQuotaDO.Call
  | .request transport ask loadedAt now persistedAt =>
    .op (.consumeQuota (consumeRequest transport ask) loadedAt now persistedAt)
  | .other call => call

namespace TokenRun

variable (token : AuthTokenRecord)

def start (clock : Int) : TokenRun := ⟨(tenantQuota token.tenantId).watchFrom clock, []⟩

def step (run : TokenRun) : TokenEvent → TokenRun
  | .request transport ask loadedAt now persistedAt =>
    let answer :=
      (quotaAdmission transport run.watched.run.state ask loadedAt now persistedAt).1
    { watched := (tenantQuota token.tenantId).watch true run.watched
        (TokenEvent.request transport ask loadedAt now persistedAt).call
      letThrough := if answer.isOk then run.letThrough ++ [now] else run.letThrough }
  | .other call =>
    { run with watched := (tenantQuota token.tenantId).watch false run.watched call }

/-- Time passes, and the token's requests have the tenant and the limit of its record. -/
def Timely (run : TokenRun) (event : TokenEvent) : Prop :=
  OrderedCall run.watched event.call ∧
    match event with
    | .request _ ask _ _ _ =>
      ask.record.tenantId = token.tenantId ∧ ask.record.rpmLimit = token.rpmLimit
    | .other _ => True

/-- The limit that the object holds a request to is within the token's: that of the tenant's
tier, or an override for the project that all the token's requests of the last minute name.
The counters are not reset within a minute of one that was let through. -/
def Held (run : TokenRun) : TokenEvent → Prop
  | .request _ ask loadedAt now _ =>
    let tier := ((tenantQuota token.tenantId).ensureLoaded run.watched.run.state loadedAt).tier
    (getTierLimits tier).rpmLimit ≤ (token.rpmLimit.toNat : Int) ∨
      ∃ id cap, truthyProject ask.projectId = some id ∧ ask.rpmLimitOverride = some cap ∧
        cap ≤ token.rpmLimit.toNat ∧
        ∀ e ∈ run.watched.log, now - 60000 < e.timestamp → e.projectId = some id
  | .other call => Undisturbed 60000 run.watched call

/-- No minute holds more requests that were let through than the token's limit. -/
def Limited (run : TokenRun) : Prop :=
  ∀ t : Int, run.letThrough.countP (fun i => t - 60000 < i ∧ i ≤ t) ≤ token.rpmLimit.toNat

/-! ## What is let through -/

variable {token}

/-- A request is let through with one entry at its instant, or leaves none. -/
theorem grants_request (run : Run) (transport : Transport) (ask : AdmitRequest)
    (loadedAt now persistedAt : Int) :
    (tenantQuota ask.record.tenantId).grants run
        (.consumeQuota (consumeRequest transport ask) loadedAt now persistedAt) =
      if (quotaAdmission transport run.state ask loadedAt now persistedAt).1.isOk then
        [⟨now, 1, ask.incomingCost, truthyProject ask.projectId⟩]
      else [] := by
  simp only [quotaAdmission, admission_isOk, TenantQuotaDO.grants]
  cases ((tenantQuota ask.record.tenantId).consumeQuota run.state (consumeRequest transport ask)
      loadedAt now persistedAt).1 with
  | error e => rfl
  | ok result =>
    cases allowed : result.allowed with
    | true =>
      simp [TenantQuotaDO.granted, allowed, Except.toOption, consumeRequest_cost]
    | false => simp [TenantQuotaDO.granted, allowed, Except.toOption]

/-- The marked admissions are the requests let through, one by one. -/
structure Sound (token : AuthTokenRecord) (run : TokenRun) : Prop where
  watch : (tenantQuota token.tenantId).Watch 60000 run.watched
  bounded : QuotaEntry.gauge.Bounded 60000 token.rpmLimit.toNat run.watched.log
  logged : run.letThrough = run.watched.log.map QuotaEntry.timestamp
  single : ∀ e ∈ run.watched.log, e.count = 1

theorem sound_start (clock : Int) : Sound token (start token clock) where
  watch := Watch.start 60000 clock
  bounded := Gauge.Bounded.nil _ _
  logged := rfl
  single _ absent := absurd absent List.not_mem_nil

/-- A request leaves room in the token's own minute for itself. -/
theorem Sound.room {run : TokenRun} (sound : Sound token run) {transport : Transport}
    {ask : AdmitRequest} {loadedAt now persistedAt : Int}
    (timely : run.Timely token (.request transport ask loadedAt now persistedAt))
    (held : run.Held token (.request transport ask loadedAt now persistedAt)) {e : QuotaEntry}
    (granted : e ∈ (tenantQuota token.tenantId).grants run.watched.run
      (.consumeQuota (consumeRequest transport ask) loadedAt now persistedAt)) :
    QuotaEntry.gauge.sumAfter (e.timestamp - 60000) run.watched.log + e.count ≤
      token.rpmLimit.toNat := by
  obtain ⟨times, tenant, -⟩ := timely
  have ordered : Ordered run.watched.run
      (.consumeQuota (consumeRequest transport ask) loadedAt now persistedAt) := times
  have width : (tenantQuota token.tenantId).rpmWindowMs = 60000 := rfl
  obtain ⟨_, _, _, _, same, -, after, rpm, -, project⟩ :=
    sound.watch.books.grants_room ordered (show (60000 : Int) ≤ 86400000 by decide) granted
  obtain ⟨rfl, rfl, rfl, rfl⟩ := Op.consumeQuota.inj same
  rw [width] at rpm project
  have late : run.watched.run.clock - 60000 ≤ e.timestamp - 60000 := by omega
  obtain tier | ⟨id, cap, truthy, override, within, own⟩ := held
  · have minute := WithTop.coe_le_coe.mp (rpm.trans tier)
    have inMinute := sound.watch.sumAfter_le late
    omega
  · have instant : e.timestamp = now := by
      rw [← tenant, grants_request] at granted
      split at granted
      · rw [List.mem_singleton.mp granted]
      · exact absurd granted List.not_mem_nil
    have named : id ≠ "" := by
      simpa using (Option.filter_eq_some_iff.mp truthy).2
    have room := project id ((consumeRequest_project transport ask).trans truthy)
    rw [show (consumeRequest transport ask).projectMaxSubCap = some cap from override] at room
    have minute := WithTop.coe_le_coe.mp (room.trans (calculateProjectQuota_le_cap _ cap))
    have inMinute := sound.watch.sumAfter_le_project late after named
      (instant ▸ own)
    omega

theorem Sound.step {run : TokenRun} (sound : Sound token run) {event : TokenEvent}
    (timely : run.Timely token event) (held : run.Held token event) :
    Sound token (run.step token event) := by
  cases event with
  | other call =>
    constructor
    · exact sound.watch.step false timely.1 held
    · exact sound.watch.books.bounded_watch (show (60000 : Int) ≤ 86400000 by decide) timely.1
        sound.bounded nofun
    · simp only [TokenRun.step, watch_unmarked_log]
      exact sound.logged
    · simp only [TokenRun.step, watch_unmarked_log]
      exact sound.single
  | request transport ask loadedAt now persistedAt =>
    have grants := grants_request run.watched.run transport ask loadedAt now persistedAt
    rw [timely.2.1] at grants
    constructor
    · exact sound.watch.step true timely.1 trivial
    · apply sound.watch.books.bounded_watch (show (60000 : Int) ≤ 86400000 by decide) timely.1
        sound.bounded
      intro _ op is e granted
      cases is
      exact sound.room timely held granted
    · simp only [TokenRun.step, TokenEvent.call, TenantQuotaDO.watch, grants, sound.logged,
        ↓reduceIte, List.map_append]
      split
      · rfl
      · exact (List.append_nil _).symm
    · intro e mem
      simp only [TokenRun.step, TokenEvent.call, TenantQuotaDO.watch, grants, ↓reduceIte,
        List.mem_append] at mem
      obtain old | new := mem
      · exact sound.single e old
      · split at new
        · rw [List.mem_singleton.mp new]
        · exact absurd new List.not_mem_nil

theorem Sound.limited {run : TokenRun} (sound : Sound token run) : run.Limited token := by
  intro t
  have windows := sound.bounded t
  rw [Gauge.windowSum, Gauge.total_eq_countP sound.single] at windows
  rw [sound.logged, List.countP_map]
  exact windows

end TokenRun

/-- In a run where the object holds each of the token's requests to a limit that is within
the token's, no minute holds more of them that were let through than the token's limit. -/
theorem token_limit_enforced (token : AuthTokenRecord) (clock : Int) (events : List TokenEvent)
    (guarded : Transition.Guarded (TokenRun.step token)
      (fun run event => run.Timely token event ∧ run.Held token event)
      (TokenRun.start token clock) events) :
    ∀ run ∈ Transition.reached (TokenRun.step token) (TokenRun.start token clock) events,
      run.Limited token := by
  intro run reached
  have sound := Transition.invariant_of_guarded (I := fun run => TokenRun.Sound token run)
    (fun _ _ sound ok => sound.step ok.1 ok.2) (TokenRun.sound_start clock) guarded run reached
  exact sound.limited

/-- A token that allows two requests a minute, of a tenant on probation. -/
def probationary : List TokenEvent :=
  [.other (.op (.setTier .probationary 0 0)), .request .rpc (acmeAsk 2) 1 1 1,
    .request .fetch (acmeAsk 2) 2 2 2, .request .rpc (acmeAsk 2) 3 3 3]

theorem token_limit_enforced_two :
    (probationary.foldl (TokenRun.step (acmeAsk 2).record)
      (TokenRun.start (acmeAsk 2).record 0)).Limited (acmeAsk 2).record := by
  apply token_limit_enforced (acmeAsk 2).record 0 probationary
  · exact ⟨⟨⟨⟨by decide, by decide⟩, trivial⟩, trivial⟩,
      ⟨⟨⟨by decide, by decide, by decide⟩, rfl, rfl⟩, Or.inl (by decide)⟩,
      ⟨⟨⟨by decide, by decide, by decide⟩, rfl, rfl⟩, Or.inl (by decide)⟩,
      ⟨⟨⟨by decide, by decide, by decide⟩, rfl, rfl⟩, Or.inl (by decide)⟩, trivial⟩
  · exact Transition.foldl_mem_reached _ _ _

/-- The same three requests to the fallback limiter, one after the other. -/
def oneByOne : List FallbackLimiter.Event :=
  .arrive (acmeAsk 2) 1 :: List.replicate 5 (.resume 0 1) ++
    .arrive (acmeAsk 2) 2 :: List.replicate 4 (.resume 1 2) ++
    .arrive (acmeAsk 2) 3 :: List.replicate 4 (.resume 2 3)

/-- A token that allows two requests a minute, of a tenant on the tier its object starts with,
is let through three times in three milliseconds. The fallback limiter denies the third. -/
theorem token_limit_not_enforced :
    (¬∀ events, Transition.Guarded (TokenRun.step (acmeAsk 2).record)
        (TokenRun.Timely (acmeAsk 2).record) (TokenRun.start (acmeAsk 2).record 0) events →
      ∀ run ∈ Transition.reached (TokenRun.step (acmeAsk 2).record)
        (TokenRun.start (acmeAsk 2).record 0) events, run.Limited (acmeAsk 2).record) ∧
    (oneByOne.foldl FallbackLimiter.State.step (.start 0)).calls.map FallbackLimiter.Call.phase =
      [.letThrough 1, .letThrough 2, .denied] := by
  constructor
  · intro limited
    have atMost := limited [.request .rpc (acmeAsk 2) 1 1 1, .request .rpc (acmeAsk 2) 2 2 2,
        .request .rpc (acmeAsk 2) 3 3 3]
      ⟨⟨⟨by decide, by decide, by decide⟩, rfl, rfl⟩,
        ⟨⟨by decide, by decide, by decide⟩, rfl, rfl⟩,
        ⟨⟨by decide, by decide, by decide⟩, rfl, rfl⟩, trivial⟩ _
      (Transition.foldl_mem_reached _ _ _) 3
    exact absurd atMost (by decide)
  · decide

end KeyCollective.AuthMiddleware
