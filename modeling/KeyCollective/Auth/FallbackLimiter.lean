import KeyCollective.Auth.Middleware
import KeyCollective.Limiter.Safety

/-!
# The fallback limiter

Without a quota object the middleware checks the counters of a token and then increments
them. Both are awaited, and other calls run at every await. There is a limiter for each
limit, all of them on one storage; each loads a token's counters once and then keeps an
object of its own in memory, which calls hold while they wait.
-/

namespace KeyCollective.FallbackLimiter

open AuthMiddleware RateLimiter SlidingWindow

/-- The limiter of a limit, with the defaults for all else. -/
def getRateLimiter (rpmLimit : Int) : RateLimiter :=
  RateLimiter.create { rpmLimit := some rpmLimit.toNat }

/-- What the middleware makes of a check. -/
def answer (ask : AdmitRequest) (result : RateLimitCheckResult) : Except AuthError Admitted :=
  let tenantId := ask.record.tenantId
  if result.allowed then
    let currentRpm : Int := result.currentRpm + 1
    .ok ⟨ask.effectiveRpm, currentRpm, max 0 (ask.effectiveRpm - currentRpm)⟩
  else
    match result.reason with
    | some .rpmLimitExceeded =>
      let usage := s!"({result.currentRpm}/{result.rpmLimit})"
      .error (.rateLimitExceeded
        s!"Rate limit exceeded for tenant '{tenantId}': RPM limit reached {usage}"
        result.rpmLimit result.currentRpm result.retryAfterSeconds)
    | some .rpdLimitExceeded =>
      let usage := s!"({result.currentRpd}/{result.rpdLimit})"
      .error (.quotaExceeded
        s!"Daily request quota exceeded for tenant '{tenantId}': RPD limit reached {usage}"
        "rpd" result.rpdLimit result.currentRpd)
    | _ =>
      .error (.quotaExceeded s!"Financial budget ceiling exceeded for tenant '{tenantId}'"
        "spend_limit" (result.maxBudgetMicrodollars.getD 0) result.costAccumulatedMicrodollars)

/-- What a call loads the counters for. -/
inductive Stage where
  | check
  | increment
deriving DecidableEq, Repr

/-- Where a call waits. -/
inductive Phase where
  /-- On storage, which has read the counters when the call asked for them. -/
  | loading (stage : Stage) (stored : RateLimiterData)
  /-- On `getData`, which returned the object of this number. -/
  | holding (stage : Stage) (object : Nat)
  | checked
  /-- On the write of the counters that count it. -/
  | counted (instant : Int)
  | letThrough (instant : Int)
  | denied
deriving DecidableEq, Repr

structure Call where
  ask : AdmitRequest
  phase : Phase
  result : Option RateLimitCheckResult := none

/-- The counters of one token: as stored, as objects in memory, and the object that each
limiter holds, by its limit. -/
structure State where
  stored : Option RateLimiterData
  objects : List RateLimiterData
  memory : Int → Option Nat
  calls : List Call
  clock : Int
  /-- The increments made, in order. -/
  history : List Increment
  /-- The limiter that loaded the counters last. -/
  owner : Option Int

inductive Event where
  | arrive (ask : AdmitRequest) (now : Int)
  /-- The call of this number runs to its next await. -/
  | resume (call : Nat) (now : Int)

namespace State

def start (clock : Int) : State := ⟨none, [], fun _ => none, [], clock, [], none⟩

variable (s : State)

def object (i : Nat) : RateLimiterData := s.objects.getD i createDefaultRateLimiterData

def counters : RateLimiterData := s.stored.getD createDefaultRateLimiterData

/-- `getData` up to its await: the object in memory is pruned, and else storage is asked. -/
def getData (rpmLimit : Int) (stage : Stage) : Phase × State :=
  match s.memory rpmLimit with
  | some i =>
    let data := (getRateLimiter rpmLimit).prune (s.object i) s.clock
    (.holding stage i, { s with objects := s.objects.set i data })
  | none => (.loading stage s.counters, { s with owner := some rpmLimit })

/-- The counters are loaded into a new object, which replaces what memory holds. -/
def load (rpmLimit : Int) (stage : Stage) (stored : RateLimiterData) : Phase × State :=
  let i := s.objects.length
  let data := (getRateLimiter rpmLimit).prune stored s.clock
  (.holding stage i,
    { s with
      objects := s.objects ++ [data], memory := Function.update s.memory rpmLimit (some i) })

/-- The object is incremented, put back into memory and written to storage. -/
def increment (ask : AdmitRequest) (i : Nat) : State :=
  let data := s.object i
  let counted : RateLimiterData :=
    { entries := countRequest data.entries s.clock ask.incomingCost
      totalCostMicrodollars := data.totalCostMicrodollars + ask.incomingCost
      lastRequestTime := some s.clock }
  let data := (getRateLimiter ask.effectiveRpm).prune counted s.clock
  { s with
    objects := s.objects.set i data
    memory := Function.update s.memory ask.effectiveRpm (some i)
    stored := some data
    history := s.history ++ [⟨ask.record.id, s.clock⟩] }

/-- A call runs to its next await. -/
def run (call : Call) : Call × State :=
  let limiter := getRateLimiter call.ask.effectiveRpm
  match call.phase with
  | .loading stage stored =>
    let (phase, s) := s.load call.ask.effectiveRpm stage stored
    ({ call with phase }, s)
  | .holding .check i =>
    let result := limiter.evaluate (s.object i) s.clock call.ask.incomingCost
    ({ call with phase := if result.allowed then .checked else .denied, result := some result }, s)
  | .checked =>
    let (phase, s) := s.getData call.ask.effectiveRpm .increment
    ({ call with phase }, s)
  | .holding .increment i => ({ call with phase := .counted s.clock }, s.increment call.ask i)
  | .counted instant => ({ call with phase := .letThrough instant }, s)
  | .letThrough _ | .denied => (call, s)

def arrive (ask : AdmitRequest) : State :=
  let (phase, s) := s.getData ask.effectiveRpm .check
  { s with calls := s.calls ++ [{ ask, phase }] }

def resume (i : Nat) : State :=
  match s.calls[i]? with
  | none => s
  | some call =>
    let (call, s) := s.run call
    { s with calls := s.calls.set i call }

def step : Event → State
  | .arrive ask now => ({ s with clock := now } : State).arrive ask
  | .resume i now => ({ s with clock := now } : State).resume i

/-! ## What is to hold -/

end State

/-- The call was let through at an instant that satisfies `p`. -/
def Call.letThroughAt (p : Int → Bool) (call : Call) : Bool :=
  match call.phase with
  | .letThrough instant => p instant
  | _ => false

/-- The call was counted, and let through or waits for the write alone. -/
def Call.countedAt (p : Int → Bool) (call : Call) : Bool :=
  match call.phase with
  | .counted instant | .letThrough instant => p instant
  | _ => false

/-- The call arrived and is neither counted nor denied. -/
def Phase.busy : Phase → Bool
  | .loading _ _ | .holding _ _ | .checked => true
  | .counted _ | .letThrough _ | .denied => false

/-- The call passed its check and is not counted yet. -/
def Phase.passed : Phase → Bool
  | .loading .increment _ | .holding .increment _ | .checked => true
  | _ => false

def Phase.isLoading : Phase → Bool
  | .loading _ _ => true
  | _ => false

namespace State

variable (s : State)

def passed : Nat := s.calls.countP (·.phase.passed)

/-- No minute holds more calls that were let through than the limit, and the stored counters
count those of the last day. -/
structure Safe (limit : Nat) : Prop where
  bounded : ∀ t : Int, s.calls.countP (·.letThroughAt fun i => t - 60000 < i ∧ i ≤ t) ≤ limit
  recorded : ∀ t : Int, s.clock - 86400000 < t →
    s.calls.countP (·.letThroughAt (· = t)) ≤
      RateLimitEntry.gauge.total (·.timestamp = t) s.counters.entries

/-- The limiter loaded the counters last, and holds them; or it has yet to load them, and no
other call is on its way. -/
def Joins (rpmLimit : Int) : Prop :=
  s.owner = some rpmLimit ∧ (s.memory rpmLimit).isSome = true ∨
    s.memory rpmLimit = none ∧ ∀ call ∈ s.calls, call.phase.busy = false

/-- Time passes, and a call comes with a limit that is no higher than the token's. -/
def Timely (limit : Nat) : Event → Prop
  | .arrive ask now => s.clock ≤ now ∧ ask.effectiveRpm.toNat ≤ limit
  | .resume _ now => s.clock ≤ now

instance (limit : Nat) : ∀ event, Decidable (s.Timely limit event)
  | .arrive _ _ => inferInstanceAs (Decidable (_ ∧ _))
  | .resume _ _ => inferInstanceAs (Decidable (_ ≤ _))

/-- A check that passes leaves room for the calls that passed theirs before and are not
counted yet. -/
def LeavesRoom (call : Call) (now : Int) : Prop :=
  match call.phase with
  | .holding .check i =>
    ((getRateLimiter call.ask.effectiveRpm).evaluate (s.object i) now
        call.ask.incomingCost).allowed = true →
      Increment.gauge.sumAfter (now - 60000) s.history + s.passed < call.ask.effectiveRpm.toNat
  | _ => True

instance (now : Int) : ∀ call, Decidable (s.LeavesRoom call now)
  | ⟨_, .holding .check _, _⟩ => inferInstanceAs (Decidable (_ → _))
  | ⟨_, .loading _ _, _⟩ | ⟨_, .holding .increment _, _⟩ | ⟨_, .checked, _⟩
  | ⟨_, .counted _, _⟩ | ⟨_, .letThrough _, _⟩ | ⟨_, .denied, _⟩ => isTrue trivial

/-- A call joins the others when it arrives, and leaves them room when it is checked. -/
def Apart : Event → Prop
  | .arrive ask _ => s.Joins ask.effectiveRpm
  | .resume i now => ∀ call ∈ s.calls[i]?, s.LeavesRoom call now

instance : ∀ event, Decidable (s.Apart event)
  | .arrive _ _ => inferInstanceAs (Decidable (_ ∨ _))
  | .resume _ _ => inferInstanceAs (Decidable (∀ _ ∈ _, _))

/-! ## The invariant -/

/-- The counters hold what was counted in the last day. -/
abbrev Counts (data : RateLimiterData) : Prop :=
  (RateLimiter.create {}).Faithful s.clock data s.history

/-- What a call waits on is what its limiter holds. -/
def Waits (call : Call) : Prop :=
  match call.phase with
  | .loading stage stored =>
    stage = .check ∧ s.owner = some call.ask.effectiveRpm ∧
      s.memory call.ask.effectiveRpm = none ∧ s.Counts stored
  | .holding _ i =>
    s.owner = some call.ask.effectiveRpm ∧ s.memory call.ask.effectiveRpm = some i
  | .checked =>
    s.owner = some call.ask.effectiveRpm ∧ (s.memory call.ask.effectiveRpm).isSome = true
  | .counted _ | .letThrough _ | .denied => True

structure Sound (limit : Nat) : Prop where
  stored : s.Counts s.counters
  bounded : Increment.gauge.Bounded 60000 limit s.history
  room : Increment.gauge.sumAfter (s.clock - 60000) s.history + s.passed ≤ limit
  accounted : ∀ p : Int → Bool,
    s.calls.countP (·.countedAt p) = s.history.countP (p ·.timestamp)
  limits : ∀ call ∈ s.calls, call.ask.effectiveRpm.toNat ≤ limit
  held : ∀ rpmLimit i, s.owner = some rpmLimit → s.memory rpmLimit = some i →
    i < s.objects.length ∧ s.Counts (s.object i)
  waits : ∀ call ∈ s.calls, s.Waits call
  /-- A call that loads is the only one that is busy. -/
  alone : ∀ (i j : Nat) (call other : Call), s.calls[i]? = some call → s.calls[j]? = some other →
    call.phase.isLoading = true → other.phase.busy = true → j = i

end State

/-- What is recorded after an instant, and at the instant. -/
theorem sumAfter_pred {E : Type} (g : Gauge E Int Nat) (t : Int) (records : List E) :
    g.sumAfter (t - 1) records = g.sumAfter t records + g.total (fun e => g.time e = t) records := by
  rw [Gauge.sumAfter, g.total_split _ (fun e => t < g.time e)]
  congr 1
  · apply Gauge.total_congr
    intro e _
    rw [decide_eq_decide, decide_eq_true_eq, decide_eq_true_eq]
    omega
  · apply Gauge.total_congr
    intro e _
    rw [decide_eq_decide, decide_eq_true_eq, decide_eq_true_eq]
    omega

theorem total_increments (p : Increment → Bool) (history : List Increment) :
    Increment.gauge.total p history = history.countP p :=
  Gauge.total_eq_countP (fun _ _ => rfl) p

/-- A call in the place of another. -/
theorem countP_set_add {α : Type} {l : List α} {i : Nat} {a b : α} (at_i : l[i]? = some a)
    (p : α → Bool) :
    (l.set i b).countP p + (if p a then 1 else 0) = l.countP p + (if p b then 1 else 0) := by
  obtain ⟨less, eq⟩ := List.getElem?_eq_some_iff.mp at_i
  have counted : p a = true → 0 < l.countP p := by
    intro holds
    exact List.countP_pos_iff.mpr ⟨a, List.mem_of_getElem? at_i, holds⟩
  rw [List.countP_set less, eq]
  split
  · rename_i holds
    have pos := counted holds
    omega
  · omega

theorem countP_set_eq {α : Type} {l : List α} {i : Nat} {a b : α} (at_i : l[i]? = some a)
    {p : α → Bool} (same : p b = p a) : (l.set i b).countP p = l.countP p := by
  have set := countP_set_add (b := b) at_i p
  rw [same] at set
  exact Nat.add_right_cancel set

theorem countP_set_le {α : Type} {l : List α} {i : Nat} {a b : α} (at_i : l[i]? = some a)
    (p : α → Bool) : (l.set i b).countP p ≤ l.countP p + if p b then 1 else 0 := by
  have set := countP_set_add (b := b) at_i p
  omega

/-- What is found after a place was set. -/
theorem getElem?_set_cases {α : Type} {l : List α} {i j : Nat} {a b : α}
    (found : (l.set i b)[j]? = some a) : j = i ∧ a = b ∨ j ≠ i ∧ l[j]? = some a := by
  by_cases same : i = j
  · subst same
    obtain ⟨less, eq⟩ := List.getElem?_eq_some_iff.mp found
    rw [List.getElem_set_self] at eq
    exact Or.inl ⟨rfl, eq.symm⟩
  · rw [List.getElem?_set_ne same] at found
    exact Or.inr ⟨Ne.symm same, found⟩

namespace State

variable {limit : Nat} {s : State}

theorem Waits.later {call : Call} {now : Int} (waits : s.Waits call) (le : s.clock ≤ now) :
    ({ s with clock := now } : State).Waits call := by
  unfold Waits at waits ⊢
  cases phase : call.phase with
  | loading stage stored =>
    simp only [phase] at waits ⊢
    obtain ⟨stage, owner, empty, counts⟩ := waits
    exact ⟨stage, owner, empty, counts.later le⟩
  | holding stage i =>
    simp only [phase] at waits ⊢
    exact waits
  | checked =>
    simp only [phase] at waits ⊢
    exact waits
  | counted instant | letThrough instant | denied => trivial

theorem Sound.later {now : Int} (sound : s.Sound limit) (le : s.clock ≤ now) :
    ({ s with clock := now } : State).Sound limit where
  stored := sound.stored.later le
  bounded := sound.bounded
  room := by
    have fewer : Increment.gauge.sumAfter (now - 60000) s.history ≤
        Increment.gauge.sumAfter (s.clock - 60000) s.history :=
      Gauge.sumAfter_antitone _ (by omega)
    exact (Nat.add_le_add_right fewer _).trans sound.room
  accounted := sound.accounted
  limits := sound.limits
  held rpmLimit i owner memory :=
    ⟨(sound.held rpmLimit i owner memory).1, (sound.held rpmLimit i owner memory).2.later le⟩
  waits call mem := (sound.waits call mem).later le
  alone := sound.alone

theorem sound_start (limit : Nat) (clock : Int) : (start clock).Sound limit where
  stored := .default clock
  bounded := Gauge.Bounded.nil _ _
  room := Nat.zero_le _
  accounted _ := rfl
  limits _ absent := absurd absent List.not_mem_nil
  held _ _ owner := by cases owner
  waits _ absent := absurd absent List.not_mem_nil
  alone _ _ _ _ found := by cases found

/-! ## One call at a time -/

@[simp] theorem object_set_self {i : Nat} (less : i < s.objects.length) (data : RateLimiterData) :
    ({ s with objects := s.objects.set i data } : State).object i = data := by
  simp [object, less]

/-- The object in use is replaced by one that counts as much. -/
theorem Sound.refresh (sound : s.Sound limit) {rpmLimit : Int} {i : Nat}
    (owner : s.owner = some rpmLimit) (memory : s.memory rpmLimit = some i)
    {data : RateLimiterData} (counts : s.Counts data) :
    ({ s with objects := s.objects.set i data } : State).Sound limit where
  stored := sound.stored
  bounded := sound.bounded
  room := sound.room
  accounted := sound.accounted
  limits := sound.limits
  held other j owns holds := by
    obtain rfl : rpmLimit = other := Option.some.inj (owner.symm.trans owns)
    obtain rfl : i = j := Option.some.inj (memory.symm.trans holds)
    have less := (sound.held rpmLimit i owner memory).1
    rw [object_set_self less]
    exact ⟨by simpa using less, counts⟩
  waits := sound.waits
  alone := sound.alone

/-- A call moves on, and is counted or not as before. -/
theorem Sound.setCall (sound : s.Sound limit) {i : Nat} {call moved : Call}
    (found : s.calls[i]? = some call) (ask : moved.ask = call.ask) (waits : s.Waits moved)
    (loaded : moved.phase.isLoading = false)
    (busy : moved.phase.busy = true → call.phase.busy = true)
    (counted : ∀ p, moved.countedAt p = call.countedAt p)
    (room : Increment.gauge.sumAfter (s.clock - 60000) s.history +
      (s.calls.set i moved).countP (·.phase.passed) ≤ limit) :
    ({ s with calls := s.calls.set i moved } : State).Sound limit where
  stored := sound.stored
  bounded := sound.bounded
  room := room
  accounted p := by
    rw [← sound.accounted p]
    exact countP_set_eq found (counted p)
  limits other mem := by
    obtain old | rfl := List.mem_or_eq_of_mem_set mem
    · exact sound.limits other old
    · rw [ask]
      exact sound.limits call (List.mem_of_getElem? found)
  held := sound.held
  waits other mem := by
    obtain old | rfl := List.mem_or_eq_of_mem_set mem
    · exact sound.waits other old
    · exact waits
  alone a b one other at_a at_b loads isBusy := by
    obtain ⟨-, rfl⟩ | ⟨-, kept_a⟩ := getElem?_set_cases at_a
    · rw [loaded] at loads
      cases loads
    · obtain ⟨rfl, rfl⟩ | ⟨-, kept_b⟩ := getElem?_set_cases at_b
      · exact sound.alone a b one call kept_a found loads (busy isBusy)
      · exact sound.alone a b one other kept_a kept_b loads isBusy

/-- A call arrives, and finds others busy only when it does not load. -/
theorem Sound.append (sound : s.Sound limit) {call : Call}
    (within : call.ask.effectiveRpm.toNat ≤ limit) (waits : s.Waits call)
    (uncounted : ∀ p, call.countedAt p = false) (unchecked : call.phase.passed = false)
    (arrives : call.phase.isLoading = true → ∀ other ∈ s.calls, other.phase.busy = false)
    (joins : ∀ other ∈ s.calls, other.phase.isLoading = false) :
    ({ s with calls := s.calls ++ [call] } : State).Sound limit where
  stored := sound.stored
  bounded := sound.bounded
  room := by
    have room := sound.room
    simpa [passed, unchecked] using room
  accounted p := by
    rw [← sound.accounted p]
    simp [uncounted]
  limits other mem := by
    obtain old | new := List.mem_append.mp mem
    · exact sound.limits other old
    · rw [List.mem_singleton.mp new]
      exact within
  held := sound.held
  waits other mem := by
    obtain old | new := List.mem_append.mp mem
    · exact sound.waits other old
    · rw [List.mem_singleton.mp new]
      exact waits
  alone a b one other at_a at_b loads isBusy := by
    have place {j : Nat} {found : Call} (at_j : (s.calls ++ [call])[j]? = some found) :
        s.calls[j]? = some found ∨ j = s.calls.length ∧ found = call := by
      rw [List.getElem?_append] at at_j
      split at at_j
      · exact Or.inl at_j
      · rename_i beyond
        obtain ⟨less, eq⟩ := List.getElem?_eq_some_iff.mp at_j
        rw [List.getElem_singleton] at eq
        rw [List.length_singleton] at less
        exact Or.inr ⟨by omega, eq.symm⟩
    obtain old_a | ⟨rfl, rfl⟩ := place at_a
    · have quiet := joins one (List.mem_of_getElem? old_a)
      rw [loads] at quiet
      cases quiet
    · obtain old_b | ⟨rfl, rfl⟩ := place at_b
      · have idle := arrives loads other (List.mem_of_getElem? old_b)
        rw [isBusy] at idle
        cases idle
      · rfl

/-- A call that is not busy waits on nothing. -/
theorem waits_of_idle {call : Call} (idle : call.phase.busy = false) : s.Waits call := by
  unfold Waits
  cases phase : call.phase with
  | loading stage stored => simp [phase, Phase.busy] at idle
  | holding stage i => simp [phase, Phase.busy] at idle
  | checked => simp [phase, Phase.busy] at idle
  | counted instant | letThrough instant | denied => trivial

theorem busy_of_loading {phase : Phase} (loads : phase.isLoading = true) : phase.busy = true := by
  cases phase with
  | loading stage stored => rfl
  | _ => cases loads

/-- While the limiter that loaded last holds the counters, no call loads them. -/
theorem Sound.warm (sound : s.Sound limit) {rpmLimit : Int} (owner : s.owner = some rpmLimit)
    (holds : (s.memory rpmLimit).isSome = true) :
    ∀ call ∈ s.calls, call.phase.isLoading = false := by
  intro call mem
  have waits := sound.waits call mem
  unfold Waits at waits
  cases phase : call.phase with
  | loading stage stored =>
    simp only [phase] at waits
    obtain ⟨-, owns, empty, -⟩ := waits
    obtain rfl : rpmLimit = call.ask.effectiveRpm := Option.some.inj (owner.symm.trans owns)
    rw [empty] at holds
    cases holds
  | _ => rfl

theorem Sound.prune (sound : s.Sound limit) {rpmLimit : Int} {i : Nat}
    (owner : s.owner = some rpmLimit) (memory : s.memory rpmLimit = some i) :
    s.Counts ((getRateLimiter rpmLimit).prune (s.object i) s.clock) :=
  Faithful.prune (r := RateLimiter.create {}) (sound.held rpmLimit i owner memory).2

theorem Sound.arrive (sound : s.Sound limit) {ask : AdmitRequest}
    (within : ask.effectiveRpm.toNat ≤ limit) (joins : s.Joins ask.effectiveRpm) :
    (s.arrive ask).Sound limit := by
  obtain ⟨owner, holds⟩ | ⟨empty, idle⟩ := joins
  · obtain ⟨i, memory⟩ := Option.isSome_iff_exists.mp holds
    simp only [State.arrive, getData, memory]
    apply (sound.refresh owner memory (sound.prune owner memory)).append within
    · exact ⟨owner, memory⟩
    · intro p
      rfl
    · rfl
    · exact nofun
    · exact sound.warm owner holds
  · simp only [State.arrive, getData, empty]
    have owned : ({ s with owner := some ask.effectiveRpm } : State).Sound limit := by
      refine { sound with held := ?_, waits := ?_ }
      · intro rpmLimit i owns holds
        obtain rfl : ask.effectiveRpm = rpmLimit := Option.some.inj owns
        rw [show s.memory ask.effectiveRpm = some i from holds] at empty
        cases empty
      · intro call mem
        exact waits_of_idle (idle call mem)
    apply owned.append within
    · exact ⟨rfl, rfl, empty, sound.stored⟩
    · intro p
      rfl
    · rfl
    · intro _
      exact idle
    · intro call mem
      have quiet := idle call mem
      by_contra loads
      rw [Bool.not_eq_false] at loads
      rw [busy_of_loading loads] at quiet
      cases quiet

/-- The counters are loaded while no other call is busy. -/
theorem Sound.loads (sound : s.Sound limit) {i : Nat} {call : Call} {stage : Stage}
    {stored : RateLimiterData} (found : s.calls[i]? = some call)
    (phase : call.phase = .loading stage stored) : (s.resume i).Sound limit := by
  have waits := sound.waits call (List.mem_of_getElem? found)
  simp only [Waits, phase] at waits
  obtain ⟨rfl, owner, empty, counts⟩ := waits
  have data : s.Counts ((getRateLimiter call.ask.effectiveRpm).prune stored s.clock) :=
    Faithful.prune (r := RateLimiter.create {}) counts
  have idle : ∀ j other, s.calls[j]? = some other → j ≠ i → other.phase.busy = false := by
    intro j other at_j differs
    by_contra isBusy
    rw [Bool.not_eq_false] at isBusy
    exact differs (sound.alone i j call other found at_j (by rw [phase]; rfl) isBusy)
  have others : ∀ other ∈ s.calls.set i { call with phase := .holding .check s.objects.length },
      other = { call with phase := .holding .check s.objects.length } ∨
        other.phase.busy = false := by
    intro other mem
    obtain ⟨j, at_j⟩ := List.mem_iff_getElem?.mp mem
    obtain ⟨-, eq⟩ | ⟨differs, kept⟩ := getElem?_set_cases at_j
    · exact Or.inl eq
    · exact Or.inr (idle j other kept differs)
  simp only [resume, found, run, phase, load]
  constructor
  · exact sound.stored
  · exact sound.bounded
  · have same : Phase.passed (.holding .check s.objects.length) = call.phase.passed := by
      rw [phase]
      rfl
    have room := sound.room
    rw [passed, ← countP_set_eq (b := { call with phase := .holding .check s.objects.length })
      found same] at room
    exact room
  · intro p
    rw [← sound.accounted p]
    apply countP_set_eq found
    simp only [Call.countedAt, phase]
  · intro other mem
    obtain old | rfl := List.mem_or_eq_of_mem_set mem
    · exact sound.limits other old
    · exact sound.limits call (List.mem_of_getElem? found)
  · intro rpmLimit j owns holds
    obtain rfl : call.ask.effectiveRpm = rpmLimit := Option.some.inj (owner.symm.trans owns)
    obtain rfl : s.objects.length = j := by simpa using holds
    simp only [object, List.getD_eq_getElem?_getD, List.length_append, List.length_singleton]
    refine ⟨by omega, ?_⟩
    simpa using data
  · intro other mem
    obtain rfl | quiet := others other mem
    · exact ⟨owner, Function.update_self ..⟩
    · exact waits_of_idle quiet
  · intro a b one other at_a at_b loads isBusy
    obtain rfl | quiet := others one (List.mem_of_getElem? at_a)
    · cases loads
    · rw [busy_of_loading loads] at quiet
      cases quiet

/-- A check passes only with room for those that passed before. -/
theorem Sound.checks (sound : s.Sound limit) {i o : Nat} {call : Call}
    (found : s.calls[i]? = some call) (phase : call.phase = .holding .check o)
    (room : s.LeavesRoom call s.clock) : (s.resume i).Sound limit := by
  have mem := List.mem_of_getElem? found
  have waits := sound.waits call mem
  simp only [Waits, phase] at waits
  obtain ⟨owner, memory⟩ := waits
  simp only [LeavesRoom, phase] at room
  have within := sound.limits call mem
  simp only [resume, found, run, phase]
  cases allowed : ((getRateLimiter call.ask.effectiveRpm).evaluate (s.object o) s.clock
      call.ask.incomingCost).allowed with
  | true =>
    have less := room allowed
    apply sound.setCall found
    · rfl
    · exact ⟨owner, Option.isSome_iff_exists.mpr ⟨o, memory⟩⟩
    · rfl
    · intro _
      rw [phase]
      rfl
    · intro p
      simp only [Call.countedAt, phase, ↓reduceIte]
    · apply (Nat.add_le_add_left (countP_set_le found _) _).trans
      have one_more : Increment.gauge.sumAfter (s.clock - 60000) s.history + (s.passed + 1) ≤
          limit := by omega
      exact one_more
  | false =>
    apply sound.setCall found
    · rfl
    · exact trivial
    · rfl
    · exact nofun
    · intro p
      simp only [Call.countedAt, phase, Bool.false_eq_true, ↓reduceIte]
    · apply (Nat.add_le_add_left (countP_set_le found _) _).trans
      exact sound.room

theorem Sound.begins (sound : s.Sound limit) {i : Nat} {call : Call}
    (found : s.calls[i]? = some call) (phase : call.phase = .checked) :
    (s.resume i).Sound limit := by
  have waits := sound.waits call (List.mem_of_getElem? found)
  simp only [Waits, phase] at waits
  obtain ⟨owner, holds⟩ := waits
  obtain ⟨o, memory⟩ := Option.isSome_iff_exists.mp holds
  simp only [resume, found, run, phase, getData, memory]
  apply (sound.refresh owner memory (sound.prune owner memory)).setCall found
  · rfl
  · exact ⟨owner, memory⟩
  · rfl
  · intro _
    rw [phase]
    rfl
  · intro p
    simp only [Call.countedAt, phase]
  · have same : Phase.passed (.holding .increment o) = call.phase.passed := by
      rw [phase]
      rfl
    rw [countP_set_eq found same]
    exact sound.room

theorem Sound.returns (sound : s.Sound limit) {i : Nat} {call : Call} {instant : Int}
    (found : s.calls[i]? = some call) (phase : call.phase = .counted instant) :
    (s.resume i).Sound limit := by
  simp only [resume, found, run, phase]
  apply sound.setCall found
  · rfl
  · exact trivial
  · rfl
  · exact nofun
  · intro p
    simp only [Call.countedAt, phase]
  · apply (Nat.add_le_add_left (countP_set_le found _) _).trans
    exact sound.room

/-- A call is counted in the object that its limiter holds, and written. -/
theorem Sound.counts (sound : s.Sound limit) {i o : Nat} {call : Call}
    (found : s.calls[i]? = some call) (phase : call.phase = .holding .increment o) :
    (s.resume i).Sound limit := by
  have waits := sound.waits call (List.mem_of_getElem? found)
  simp only [Waits, phase] at waits
  obtain ⟨owner, memory⟩ := waits
  obtain ⟨less, held⟩ := sound.held call.ask.effectiveRpm o owner memory
  have kept : Function.update s.memory call.ask.effectiveRpm (some o) = s.memory := by
    rw [← memory, Function.update_eq_self]
  have data : (RateLimiter.create {}).Faithful s.clock
      ((getRateLimiter call.ask.effectiveRpm).prune
        { entries := countRequest (s.object o).entries s.clock call.ask.incomingCost
          totalCostMicrodollars := (s.object o).totalCostMicrodollars + call.ask.incomingCost
          lastRequestTime := some s.clock } s.clock)
      (s.history ++ [⟨call.ask.record.id, s.clock⟩]) :=
    Faithful.prune (r := RateLimiter.create {}) (held.count call.ask.record.id)
  have fewer : (s.calls.set i { call with phase := .counted s.clock }).countP (·.phase.passed) + 1 =
      s.passed := by
    have set := countP_set_add (b := { call with phase := .counted s.clock }) found
      (·.phase.passed)
    rw [phase] at set
    exact set
  have more : Increment.gauge.sumAfter (s.clock - 60000)
      (s.history ++ [⟨call.ask.record.id, s.clock⟩]) =
        Increment.gauge.sumAfter (s.clock - 60000) s.history + 1 := by
    have late : s.clock - 60000 < s.clock := by omega
    simp [Gauge.sumAfter, Increment.gauge, late]
  have room := sound.room
  have quiet := sound.warm owner (Option.isSome_iff_exists.mpr ⟨o, memory⟩)
  simp only [resume, found, run, phase, increment, kept]
  constructor
  · exact data
  · apply sound.bounded.snoc
    have one_more : Increment.gauge.sumAfter (s.clock - 60000) s.history + 1 ≤ limit := by omega
    exact one_more
  · have kept_room : Increment.gauge.sumAfter (s.clock - 60000) s.history + 1 +
        (s.calls.set i { call with phase := .counted s.clock }).countP (·.phase.passed) ≤ limit := by
      omega
    rw [more]
    exact kept_room
  · intro p
    have set := countP_set_add (b := { call with phase := .counted s.clock }) found (·.countedAt p)
    have before := sound.accounted p
    have uncounted : call.countedAt p = false := by
      simp only [Call.countedAt, phase]
    rw [uncounted] at set
    rw [List.countP_append, List.countP_singleton, ← before]
    exact set
  · intro other mem
    obtain old | rfl := List.mem_or_eq_of_mem_set mem
    · exact sound.limits other old
    · exact sound.limits call (List.mem_of_getElem? found)
  · intro rpmLimit j owns holds
    obtain rfl : call.ask.effectiveRpm = rpmLimit := Option.some.inj (owner.symm.trans owns)
    obtain rfl : o = j := Option.some.inj (memory.symm.trans holds)
    simp only [object, List.getD_eq_getElem?_getD, List.length_set, List.getElem?_set_self less]
    exact ⟨less, data⟩
  · intro other mem
    obtain old | rfl := List.mem_or_eq_of_mem_set mem
    · have loaded := quiet other old
      have waits := sound.waits other old
      unfold Waits at waits ⊢
      cases phase : other.phase with
      | loading stage stored =>
        rw [phase] at loaded
        cases loaded
      | holding stage j =>
        simp only [phase] at waits ⊢
        exact waits
      | checked =>
        simp only [phase] at waits ⊢
        exact waits
      | counted instant | letThrough instant | denied => trivial
    · exact trivial
  · intro a b one other at_a at_b loads isBusy
    obtain old | rfl := List.mem_or_eq_of_mem_set (List.mem_of_getElem? at_a)
    · rw [quiet one old] at loads
      cases loads
    · cases loads

theorem Sound.rests (sound : s.Sound limit) {i : Nat} {call : Call}
    (found : s.calls[i]? = some call)
    (phase : (∃ instant, call.phase = .letThrough instant) ∨ call.phase = .denied) :
    (s.resume i).Sound limit := by
  have stays : s.run call = (call, s) := by
    obtain ⟨instant, phase⟩ | phase := phase
    · simp only [run, phase]
    · simp only [run, phase]
  obtain ⟨less, rfl⟩ := List.getElem?_eq_some_iff.mp found
  simp only [resume, found, stays, List.set_getElem_self]
  exact sound

/-! ## Runs -/

theorem Sound.step (sound : s.Sound limit) {event : Event} (timely : s.Timely limit event)
    (apart : s.Apart event) : (s.step event).Sound limit := by
  cases event with
  | arrive ask now => exact (sound.later timely.1).arrive timely.2 apart
  | resume i now =>
    have later := sound.later timely
    cases found : s.calls[i]? with
    | none =>
      simp only [State.step, resume, found]
      exact later
    | some call =>
      cases phase : call.phase with
      | loading stage stored => exact later.loads found phase
      | holding stage o =>
        cases stage with
        | check => exact later.checks found phase (apart call found)
        | increment => exact later.counts found phase
      | checked => exact later.begins found phase
      | counted instant => exact later.returns found phase
      | letThrough instant => exact later.rests found (Or.inl ⟨instant, phase⟩)
      | denied => exact later.rests found (Or.inr phase)

theorem Sound.letThrough_le (sound : s.Sound limit) (p : Int → Bool) :
    s.calls.countP (·.letThroughAt p) ≤ s.history.countP (p ·.timestamp) := by
  rw [← sound.accounted p]
  apply List.countP_mono_left
  intro call _ through
  unfold Call.letThroughAt at through
  cases phase : call.phase with
  | letThrough instant =>
    simp only [phase] at through
    simp only [Call.countedAt, phase, through]
  | _ =>
    simp only [phase] at through
    cases through

theorem Sound.safe (sound : s.Sound limit) : s.Safe limit where
  bounded t := by
    have windows := sound.bounded t
    rw [Gauge.windowSum, total_increments] at windows
    exact (sound.letThrough_le _).trans windows
  recorded t recent := by
    have window : (RateLimiter.create {}).dayWindowMs = 86400000 := rfl
    have before := sound.stored.represents (t - 1) (by omega)
    have after := sound.stored.represents t (by omega)
    rw [sumAfter_pred, sumAfter_pred, after] at before
    rw [total_increments] at before
    have through := sound.letThrough_le (· = t)
    have counted := Nat.add_left_cancel before
    exact through.trans counted.ge

end State

/-- In a run whose calls join each other and leave room for each other, no minute holds more
calls that were let through than the token's limit, and the stored counters count them. -/
theorem fallback_limit_safe (limit : Nat) (clock : Int) (events : List Event)
    (orderly : Transition.Guarded State.step (fun s event => s.Timely limit event ∧ s.Apart event)
      (.start clock) events) :
    ∀ s ∈ Transition.reached State.step (.start clock) events, s.Safe limit := by
  intro s reached
  have sound := Transition.invariant_of_guarded (I := fun s : State => s.Sound limit)
    (fun _ _ sound orderly => sound.step orderly.1 orderly.2) (State.sound_start limit clock)
    orderly s reached
  exact sound.safe

/-- A second call arrives once the first has loaded the counters, and both are checked before
either is counted. -/
def overlapping (rpmLimit : Int) : List Event :=
  [.arrive (acmeAsk rpmLimit) 0, .resume 0 0, .arrive (acmeAsk rpmLimit) 0, .resume 0 0,
    .resume 1 0, .resume 0 0, .resume 0 0, .resume 0 0, .resume 1 0, .resume 1 0, .resume 1 0]

/-- With a limit of two the two calls leave each other room. -/
theorem fallback_limit_safe_two :
    ((overlapping 2).foldl State.step (.start 0)).Safe 2 := by
  apply fallback_limit_safe 2 0 (overlapping 2)
  · decide
  · exact Transition.foldl_mem_reached _ _ _

/-- Two calls arrive before either has loaded the counters, and each counts itself in an
object of its own. -/
def twiceLoaded : List Event :=
  [.arrive (acmeAsk 60) 0, .arrive (acmeAsk 60) 0, .resume 0 0, .resume 0 0, .resume 0 0,
    .resume 1 0, .resume 1 0, .resume 1 0, .resume 0 0, .resume 0 0, .resume 1 0, .resume 1 0]

/-- With a limit of one a minute, two calls are let through at once. With one of sixty, the
stored counters count one of two calls that were let through. -/
theorem overlapping_calls_unsafe :
    (¬∀ events, Transition.Guarded State.step (State.Timely · 1) (.start 0) events →
      ∀ s ∈ Transition.reached State.step (.start 0) events,
        ∀ t : Int, s.calls.countP (·.letThroughAt fun i => t - 60000 < i ∧ i ≤ t) ≤ 1) ∧
    ¬∀ events, Transition.Guarded State.step (State.Timely · 60) (.start 0) events →
      ∀ s ∈ Transition.reached State.step (.start 0) events, s.Safe 60 := by
  constructor
  · intro bounded
    have atMost := bounded (overlapping 1) (by decide) _
      (Transition.foldl_mem_reached _ _ _) 0
    exact absurd atMost (by decide)
  · intro safe
    have counted := (safe twiceLoaded (by decide) _
      (Transition.foldl_mem_reached _ _ _)).recorded 0 (by decide)
    exact absurd counted (by decide)

end KeyCollective.FallbackLimiter
