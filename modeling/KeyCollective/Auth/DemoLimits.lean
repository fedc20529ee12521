import KeyCollective.Auth.DemoSandbox
import KeyCollective.Lib.SlidingWindow
import KeyCollective.Lib.Transition

/-!
# The limits of the demo

A run of requests and rotations, and the history of the requests it admitted. The stored
timestamps weigh what the history does over the last day, as long as no rotation discards a
timestamp of the last day.
-/

namespace KeyCollective.DemoSandbox

open SlidingWindow

structure Admission where
  ip : String
  timestamp : Int
deriving DecidableEq, Repr

def Admission.gauge : Gauge Admission Int Nat := ⟨timestamp, fun _ => 1⟩

/-- A timestamp by itself. -/
def stamp : Gauge Int Int Nat := ⟨id, fun _ => 1⟩

structure World where
  object : DemoDO
  clock : Int
  history : List Admission

def World.start (object : DemoDO) (clock : Int) : World := ⟨object, clock, []⟩

inductive Step where
  | checkRateLimit (ip : String) (now : Int)
  | recordRequest (ip : String) (now : Int)
  | checkAndConsume (ip token : String) (validatedAt now : Int)
  /-- By an alarm or on request. -/
  | rotateToken (token : String) (now : Int)
deriving DecidableEq, Repr

def record (world : World) (ip : String) (now : Int) : World :=
  let (result, sandbox) := world.object.sandbox.recordRequest ip now
  { object := { world.object with sandbox }
    clock := now
    history := if result.allowed then world.history ++ [⟨ip, now⟩] else world.history }

def step (world : World) : Step → World
  | .checkRateLimit _ now => { world with clock := now }
  | .recordRequest ip now => record world ip now
  | .checkAndConsume ip token validatedAt now =>
    let (result, object) := world.object.checkAndConsume ip token validatedAt now
    { object
      clock := now
      history := if result.allowed then world.history ++ [⟨ip, now⟩] else world.history }
  | .rotateToken token now =>
    { world with object := world.object.rotateToken token now, clock := now }

/-- The clock does not run backwards. -/
def Ordered (world : World) : Step → Prop
  | .checkRateLimit _ now | .recordRequest _ now | .rotateToken _ now => world.clock ≤ now
  | .checkAndConsume _ _ validatedAt now => world.clock ≤ validatedAt ∧ validatedAt ≤ now

/-- A rotation discards no timestamp of the last day. -/
def Spares (world : World) : Step → Prop
  | .rotateToken _ now => ∀ data ∈ world.object.sandbox.ipSlidingWindows.values,
      world.object.sandbox.isStale now data = true → ∀ t ∈ data.timestamps, t ≤ now - dayMs
  | _ => True

instance (world : World) : DecidablePred (Ordered world)
  | .checkRateLimit _ _ => inferInstanceAs (Decidable (_ ≤ _))
  | .recordRequest _ _ => inferInstanceAs (Decidable (_ ≤ _))
  | .checkAndConsume _ _ _ _ => inferInstanceAs (Decidable (_ ≤ _ ∧ _ ≤ _))
  | .rotateToken _ _ => inferInstanceAs (Decidable (_ ≤ _))

instance (world : World) : DecidablePred (Spares world)
  | .checkRateLimit _ _ => inferInstanceAs (Decidable True)
  | .recordRequest _ _ => inferInstanceAs (Decidable True)
  | .checkAndConsume _ _ _ _ => inferInstanceAs (Decidable True)
  | .rotateToken _ _ => inferInstanceAs (Decidable (∀ data ∈ _, _ → ∀ t ∈ _, _ ≤ _))

/-- The requests admitted for an IP with a timestamp in `(lo, hi]`. -/
def admittedFor (history : List Admission) (ip : String) (lo hi : Int) : Nat :=
  (history.filter fun a => a.ip = ip ∧ lo < a.timestamp ∧ a.timestamp ≤ hi).length

/-- The requests admitted with a timestamp in `(lo, hi]`. -/
def admitted (history : List Admission) (lo hi : Int) : Nat :=
  (history.filter fun a => lo < a.timestamp ∧ a.timestamp ≤ hi).length

/-! ## Timestamps and history -/

def historyOf (history : List Admission) (ip : String) : List Admission :=
  history.filter fun a => a.ip = ip

theorem historyOf_snoc (history : List Admission) (ip other : String) (now : Int) :
    historyOf (history ++ [⟨ip, now⟩]) other =
      historyOf history other ++ if ip = other then [⟨ip, now⟩] else [] := by
  by_cases same : ip = other
  · simp [historyOf, same]
  · simp [historyOf, same]

theorem admitted_eq (history : List Admission) (lo hi : Int) :
    admitted history lo hi = Admission.gauge.windowSum lo hi history := by
  rw [Gauge.windowSum, Gauge.total_eq_countP (fun _ _ => rfl), List.countP_eq_length_filter]
  rfl

theorem admittedFor_eq (history : List Admission) (ip : String) (lo hi : Int) :
    admittedFor history ip lo hi = Admission.gauge.windowSum lo hi (historyOf history ip) := by
  rw [← admitted_eq, admitted, admittedFor, historyOf, List.filter_filter]
  congr 1
  refine List.filter_congr fun a _ => ?_
  rw [Bool.and_comm]
  exact Bool.decide_and _ _

theorem length_within (width now : Int) (timestamps : List Int) :
    (within width now timestamps).length = stamp.sumAfter (now - width) timestamps := by
  rw [Gauge.sumAfter, Gauge.total_eq_countP (fun _ _ => rfl), List.countP_eq_length_filter]
  rfl

/-- The sandbox has every admission of the last day. -/
structure Faithful (clock : Int) (sandbox : DemoSandbox) (history : List Admission) : Prop where
  ips : ∀ ip, Gauge.Represents stamp Admission.gauge (clock - dayMs) (sandbox.timestampsOf ip)
    (historyOf history ip)
  all : Gauge.Represents stamp Admission.gauge (clock - dayMs) sandbox.globalTimestamps history

/-- No window of the history exceeds its limit. -/
structure Limited (config : DemoSandboxConfig) (history : List Admission) : Prop where
  ipMinute : ∀ ip, Admission.gauge.Bounded minuteMs config.ipRpmLimit (historyOf history ip)
  ipDay : ∀ ip, Admission.gauge.Bounded dayMs config.ipRpdLimit (historyOf history ip)
  minute : Admission.gauge.Bounded minuteMs config.globalRpmLimit history
  day : Admission.gauge.Bounded dayMs config.globalRpdLimit history

variable {sandbox : DemoSandbox} {history : List Admission} {clock now : Int}

theorem Faithful.later (faithful : Faithful clock sandbox history) (le : clock ≤ now) :
    Faithful now sandbox history where
  ips ip := (faithful.ips ip).later (by omega)
  all := faithful.all.later (by omega)

theorem Faithful.record (faithful : Faithful now sandbox history) {ip : String}
    (allowed : (sandbox.checkRateLimit ip now).allowed = true) :
    Faithful now (sandbox.recordRequest ip now).2 (history ++ [⟨ip, now⟩]) where
  ips other := by
    rw [timestampsOf_record sandbox allowed, historyOf_snoc]
    by_cases same : ip = other
    · subst same
      rw [if_pos rfl, if_pos rfl]
      exact (faithful.ips ip).prune.snoc rfl rfl
    · rw [if_neg same, if_neg same, List.append_nil]
      exact faithful.ips other
  all := by
    have recorded : (sandbox.recordRequest ip now).2.globalTimestamps =
        within dayMs now sandbox.globalTimestamps ++ [now] := by
      simp [recordRequest, allowed]
    rw [recorded]
    exact faithful.all.prune.snoc rfl rfl

theorem timestampsOf_prune (sandbox : DemoSandbox) (now : Int) (ip : String) :
    (sandbox.pruneStaleWindows now).timestampsOf ip = sandbox.timestampsOf ip ∨
      (sandbox.pruneStaleWindows now).timestampsOf ip = [] ∧
        ∃ data ∈ sandbox.ipSlidingWindows.values, sandbox.isStale now data = true ∧
          sandbox.timestampsOf ip = data.timestamps := by
  simp only [timestampsOf, pruneStaleWindows, IndexedMap.get?_filter]
  cases found : sandbox.ipSlidingWindows.get? ip with
  | none => exact Or.inl rfl
  | some data =>
    cases stale : sandbox.isStale now data with
    | false =>
      left
      simp [Option.filter_some, stale]
    | true =>
      right
      refine ⟨by simp [Option.filter_some, stale], data, (IndexedMap.get?_some found).1, stale, rfl⟩

/-- Discarding timestamps older than a day loses nothing. -/
theorem Faithful.prune (faithful : Faithful now sandbox history)
    (spares : ∀ data ∈ sandbox.ipSlidingWindows.values, sandbox.isStale now data = true →
      ∀ t ∈ data.timestamps, t ≤ now - dayMs) :
    Faithful now (sandbox.pruneStaleWindows now) history where
  ips ip := by
    rcases timestampsOf_prune sandbox now ip with kept | ⟨dropped, data, mem, stale, had⟩
    · rw [kept]
      exact faithful.ips ip
    · intro cutoff late
      rw [dropped, ← faithful.ips ip cutoff late, had]
      have none : ∀ t ∈ data.timestamps, ¬cutoff < t := by
        intro t recorded
        have old := spares data mem stale t recorded
        omega
      rw [Gauge.sumAfter, Gauge.sumAfter, Gauge.total_eq_countP (fun _ _ => rfl),
        Gauge.total_eq_countP (fun _ _ => rfl), List.countP_nil, eq_comm, List.countP_eq_zero]
      intro t recorded after
      exact none t recorded (of_decide_eq_true after)
  all := faithful.all

/-- An allowed request leaves every window within its limit. -/
theorem Limited.record (limited : Limited sandbox.config history)
    (faithful : Faithful now sandbox history) {ip : String}
    (allowed : (sandbox.checkRateLimit ip now).allowed = true) :
    Limited sandbox.config (history ++ [⟨ip, now⟩]) := by
  obtain ⟨ipRpm, ipRpd, globalRpm, globalRpd⟩ :=
    (checkRateLimit_allowed_iff sandbox ip now).mp allowed
  have minuteInDay : now - dayMs ≤ now - minuteMs := by
    unfold dayMs minuteMs
    omega
  have pruned : (within minuteMs now (within dayMs now (sandbox.timestampsOf ip))).length =
      stamp.sumAfter (now - minuteMs) (sandbox.timestampsOf ip) := by
    rw [length_within]
    exact stamp.sumAfter_prune _ minuteInDay
  rw [pruned, faithful.ips ip _ minuteInDay] at ipRpm
  rw [length_within, faithful.ips ip _ le_rfl] at ipRpd
  rw [length_within, faithful.all _ minuteInDay] at globalRpm
  rw [length_within, faithful.all _ le_rfl] at globalRpd
  have other_windows {width : Int} {limit : Nat}
      (bounded : ∀ ip, Admission.gauge.Bounded width limit (historyOf history ip))
      (room : Admission.gauge.sumAfter (now - width) (historyOf history ip) < limit)
      (other : String) :
      Admission.gauge.Bounded width limit (historyOf (history ++ [⟨ip, now⟩]) other) := by
    rw [historyOf_snoc]
    by_cases same : ip = other
    · subst same
      rw [if_pos rfl]
      exact (bounded ip).snoc room
    · rw [if_neg same, List.append_nil]
      exact bounded other
  exact
    { ipMinute := other_windows limited.ipMinute ipRpm
      ipDay := other_windows limited.ipDay ipRpd
      minute := limited.minute.snoc globalRpm
      day := limited.day.snoc globalRpd }

/-! ## Runs -/

structure Invariant (config : DemoSandboxConfig) (world : World) : Prop where
  config_eq : world.object.sandbox.config = config
  faithful : Faithful world.clock world.object.sandbox world.history
  limited : Limited config world.history

theorem Invariant.start (config : DemoSandboxConfig) (rotationIntervalMs : Int) (token : String)
    (tokenExpiresAt clock : Int) :
    Invariant config (.start (.create config rotationIntervalMs token tokenExpiresAt) clock) where
  config_eq := rfl
  faithful := ⟨fun _ _ _ => rfl, fun _ _ => rfl⟩
  limited :=
    { ipMinute := fun _ => .nil _ _
      ipDay := fun _ => .nil _ _
      minute := .nil _ _
      day := .nil _ _ }

variable {config : DemoSandboxConfig} {world : World}

/-- A refused request changes nothing. -/
theorem recordRequest_refused {ip : String}
    (refused : (sandbox.checkRateLimit ip now).allowed = false) :
    sandbox.recordRequest ip now = (sandbox.checkRateLimit ip now, sandbox) := by
  simp [recordRequest, refused]

theorem recordRequest_allowed (sandbox : DemoSandbox) (ip : String) (now : Int) :
    (sandbox.recordRequest ip now).1.allowed = (sandbox.checkRateLimit ip now).allowed := by
  cases allowed : (sandbox.checkRateLimit ip now).allowed with
  | true => simp [recordRequest, allowed]
  | false => rw [recordRequest_refused allowed, allowed]

theorem config_record (sandbox : DemoSandbox) (ip : String) (now : Int) :
    (sandbox.recordRequest ip now).2.config = sandbox.config := by
  unfold recordRequest
  simp only
  split <;> rfl

theorem Invariant.record (invariant : Invariant config world) (ip : String)
    (le : world.clock ≤ now) : Invariant config (record world ip now) := by
  have faithful := invariant.faithful.later le
  have limited := invariant.limited
  rw [← invariant.config_eq] at limited
  unfold DemoSandbox.record
  simp only [recordRequest_allowed]
  cases allowed : (world.object.sandbox.checkRateLimit ip now).allowed with
  | true =>
    exact
      { config_eq := (config_record _ ip now).trans invariant.config_eq
        faithful := faithful.record allowed
        limited := invariant.config_eq ▸ limited.record faithful allowed }
  | false =>
    rw [recordRequest_refused allowed]
    exact ⟨invariant.config_eq, faithful, invariant.limited⟩

/-- Consuming records the request, or is refused for its token. -/
theorem step_checkAndConsume (world : World) (ip token : String) (validatedAt now : Int) :
    step world (.checkAndConsume ip token validatedAt now) = record world ip now ∨
      step world (.checkAndConsume ip token validatedAt now) = { world with clock := now } := by
  simp only [step, DemoDO.checkAndConsume]
  cases validated : (validateDemoToken token world.object.currentToken
      world.object.tokenExpiresAt validatedAt).valid with
  | false => exact Or.inr rfl
  | true =>
    left
    unfold DemoSandbox.record
    cases recorded : (world.object.sandbox.recordRequest ip now).1.allowed with
    | true => simp [recorded]
    | false => simp [recorded]

theorem step_invariant (invariant : Invariant config world) (action : Step)
    (ordered : Ordered world action) (spares : Spares world action) :
    Invariant config (step world action) := by
  have idle {now : Int} (le : world.clock ≤ now) : Invariant config { world with clock := now } :=
    ⟨invariant.config_eq, invariant.faithful.later le, invariant.limited⟩
  cases action with
  | checkRateLimit ip now => exact idle ordered
  | recordRequest ip now => exact invariant.record ip ordered
  | checkAndConsume ip token validatedAt now =>
    have le : world.clock ≤ now := ordered.1.trans ordered.2
    rcases step_checkAndConsume world ip token validatedAt now with recorded | refused
    · rw [recorded]
      exact invariant.record ip le
    · rw [refused]
      exact idle le
  | rotateToken token now =>
    exact ⟨invariant.config_eq, (invariant.faithful.later ordered).prune spares,
      invariant.limited⟩

/-- **The limits of the demo** hold in every state of a run in which no rotation discards a
timestamp of the last day. -/
theorem demo_limits (config : DemoSandboxConfig) (rotationIntervalMs : Int) (token : String)
    (tokenExpiresAt clock : Int) (actions : List Step)
    (guarded : Transition.Guarded step (fun world action =>
      Ordered world action ∧ Spares world action)
      (.start (.create config rotationIntervalMs token tokenExpiresAt) clock) actions) :
    ∀ world ∈ Transition.reached step
        (.start (.create config rotationIntervalMs token tokenExpiresAt) clock) actions,
      (∀ ip t, admittedFor world.history ip (t - minuteMs) t ≤ config.ipRpmLimit ∧
        admittedFor world.history ip (t - dayMs) t ≤ config.ipRpdLimit) ∧
      ∀ t, admitted world.history (t - minuteMs) t ≤ config.globalRpmLimit ∧
        admitted world.history (t - dayMs) t ≤ config.globalRpdLimit := by
  intro world mem
  have keep : ∀ world action, Invariant config world → Ordered world action ∧ Spares world action →
      Invariant config (step world action) :=
    fun world action held met => step_invariant held action met.1 met.2
  have invariant := Transition.invariant_of_guarded keep
    (.start config rotationIntervalMs token tokenExpiresAt clock) guarded world mem
  obtain ⟨ipMinute, ipDay, minute, day⟩ := invariant.limited
  constructor
  · intro ip t
    rw [admittedFor_eq, admittedFor_eq]
    exact ⟨ipMinute ip t, ipDay ip t⟩
  · intro t
    rw [admitted_eq, admitted_eq]
    exact ⟨minute t, day t⟩

/-- An object with the default limits. -/
def demoPool : DemoDO := .create {} 900000 "kc_demo_0_0123456789ab" 900000

/-- The five requests a day has, an hour of silence, a rotation and a sixth request. -/
def sixRequests : List Step :=
  [.recordRequest "203.0.113.7" 0, .recordRequest "203.0.113.7" 60000,
    .recordRequest "203.0.113.7" 120000, .recordRequest "203.0.113.7" 180000,
    .recordRequest "203.0.113.7" 240000, .rotateToken "kc_demo_4000_0123456789ab" 4000000,
    .recordRequest "203.0.113.7" 4000001]

/-- The sixth request of the day is admitted. -/
theorem sixth_request_admitted :
    Transition.Guarded step Ordered (.start demoPool 0) sixRequests ∧
      admittedFor (sixRequests.foldl step (.start demoPool 0)).history "203.0.113.7"
        (4000001 - dayMs) 4000001 = 6 ∧ demoPool.sandbox.config.ipRpdLimit = 5 := by
  decide

/-- A rotation a day after the only request so far. -/
def lateRotation : List Step :=
  [.recordRequest "203.0.113.7" 0, .rotateToken "kc_demo_90000_0123456789ab" 90000000,
    .checkAndConsume "203.0.113.7" "kc_demo_90000_0123456789ab" 90000001 90000002]

theorem demo_limits_rotation :
    (∀ ip t, admittedFor (lateRotation.foldl step (.start demoPool 0)).history ip
          (t - minuteMs) t ≤ 1 ∧
        admittedFor (lateRotation.foldl step (.start demoPool 0)).history ip (t - dayMs) t ≤ 5) ∧
      ∀ t, admitted (lateRotation.foldl step (.start demoPool 0)).history (t - minuteMs) t ≤ 5 ∧
        admitted (lateRotation.foldl step (.start demoPool 0)).history (t - dayMs) t ≤ 20 :=
  demo_limits {} 900000 "kc_demo_0_0123456789ab" 900000 0 lateRotation (by decide) _
    (Transition.foldl_mem_reached step _ lateRotation)

end KeyCollective.DemoSandbox
