import KeyCollective.Breaker.CircuitBreaker
import KeyCollective.Lib.Transition

/-!
# Runs of a breaker

Calls on the breakers of any keys, in any order. A call finds a key's record as a
reader at that instant does, and leaves the record of every other key alone.
-/

namespace KeyCollective.CircuitBreaker

/-- A method call. The asynchronous reads all read as `getData` does, the synchronous ones
as `getDataSync`. -/
inductive Call where
  | read (keyId : Option String)
  | readSync (keyId : Option String)
  | trip (keyId : Option String)
  | reset (keyId : Option String)
  | recordSuccess (keyId : Option String)
  | recordFailure (keyId : Option String)
  | recordStatusCode (keyId : String) (statusCode : Nat)
  | clearMemoryCache
deriving DecidableEq, Repr

structure Run where
  store : Store
  clock : Int

def Run.start (clock : Int) : Run := ⟨.empty, clock⟩

variable (b : CircuitBreaker)

def serve (s : Store) (now : Int) : Call → Store
  | .read keyId => (b.getData s keyId now).2
  | .readSync keyId => (b.getDataSync s keyId now).2
  | .trip keyId => b.trip s keyId now
  | .reset keyId => b.reset s keyId now
  | .recordSuccess keyId => b.recordSuccess s keyId now
  | .recordFailure keyId => b.recordFailure s keyId now
  | .recordStatusCode keyId statusCode => b.recordStatusCode s keyId statusCode now
  | .clearMemoryCache => clearMemoryCache s

/-- Serve a call at its instant. -/
def step (run : Run) (call : Call × Int) : Run := ⟨b.serve run.store call.2 call.1, call.2⟩

/-- The clock does not run backwards. -/
def Ordered (run : Run) (call : Call × Int) : Prop := run.clock ≤ call.2

def Call.target : Call → Option String
  | .read keyId | .readSync keyId | .trip keyId | .reset keyId | .recordSuccess keyId
  | .recordFailure keyId => some (b.resolveKeyId keyId)
  | .recordStatusCode keyId _ => some keyId
  | .clearMemoryCache => none

/-- What a call does to the record it finds. -/
inductive Effect where
  | none
  | trip
  | reset
  | success
  | failure
deriving DecidableEq, Repr

def Effect.apply (now : Int) (data : CircuitBreakerData) : Effect → CircuitBreakerData
  | .none => data
  | .trip => data.applyTrip now b.failureThreshold
  | .reset => data.applyReset
  | .success => data.applySuccess now b.halfOpenSuccessThreshold
  | .failure => data.applyFailure now b.failureThreshold

def Call.effect : Call → Effect
  | .trip _ => .trip
  | .reset _ => .reset
  | .recordSuccess _ => .success
  | .recordFailure _ => .failure
  | .recordStatusCode _ statusCode =>
    if statusCode ∈ b.trippingStatusCodes then .failure
    else if 200 ≤ statusCode ∧ statusCode < 300 then .success
    else .none
  | .read _ | .readSync _ | .clearMemoryCache => .none

theorem getDataSync_agreeAt (s : Store) (keyId : Option String) (now : Int) {other : String}
    (h : other ≠ b.resolveKeyId keyId) :
    CachedStore.AgreeAt b.getStorageKey other (b.getDataSync s keyId now).2 s := by
  simp only [getDataSync]
  cases s.cache (b.resolveKeyId keyId) with
  | none => exact .refl other s
  | some cached => exact CachedStore.agreeAt_setCache s _ h

theorem update_agreeAt (transition : CircuitBreakerData → CircuitBreakerData) (s : Store)
    (keyId : Option String) (now : Int) {other : String} (h : other ≠ b.resolveKeyId keyId) :
    CachedStore.AgreeAt b.getStorageKey other (b.update transition s keyId now) s :=
  (CachedStore.agreeAt_save b.getStorageKey_injective _ _ h).trans
    (b.getData_agreeAt s (some (b.resolveKeyId keyId)) now h)

/-- What a call does to the store. Only an update changes what the key's record says. -/
inductive Served (s : Store) (now : Int) (call : Call) : Store → Prop where
  | updated (keyId : Option String) (target : call.target b = some (b.resolveKeyId keyId)) :
    Served s now call (b.update (fun data => (call.effect b).apply b now data) s keyId now)
  | unchanged (idle : call.effect b = .none) : Served s now call s
  | read (keyId : Option String) (target : call.target b = some (b.resolveKeyId keyId))
      (idle : call.effect b = .none) : Served s now call (b.getData s keyId now).2
  | readSync (keyId : Option String) (target : call.target b = some (b.resolveKeyId keyId))
      (idle : call.effect b = .none) : Served s now call (b.getDataSync s keyId now).2
  | evicted (target : call.target b = none) (idle : call.effect b = .none) :
    Served s now call (clearMemoryCache s)

theorem recordStatusCode_served (s : Store) (keyId : String) (statusCode : Nat) (now : Int) :
    b.Served s now (.recordStatusCode keyId statusCode)
      (b.recordStatusCode s keyId statusCode now) := by
  have written : b.Served s now (.recordStatusCode keyId statusCode)
      (b.update (fun data =>
        (Call.effect b (.recordStatusCode keyId statusCode)).apply b now data) s (some keyId) now) :=
    .updated (some keyId) rfl
  by_cases tripping : statusCode ∈ b.trippingStatusCodes
  · simp only [Call.effect, tripping, ↓reduceIte] at written
    simp only [recordStatusCode, tripping, ↓reduceIte]
    exact written
  · by_cases success : 200 ≤ statusCode ∧ statusCode < 300
    · simp only [Call.effect, tripping, success, and_self, ↓reduceIte] at written
      simp only [recordStatusCode, tripping, success, and_self, ↓reduceIte]
      exact written
    · have neutral : b.recordStatusCode s keyId statusCode now = s := by
        simp only [recordStatusCode, tripping, success, ↓reduceIte]
      rw [neutral]
      exact .unchanged (by simp only [Call.effect, tripping, success, ↓reduceIte])

theorem serve_served (s : Store) (now : Int) (call : Call) :
    b.Served s now call (b.serve s now call) := by
  cases call with
  | read keyId => exact .read keyId rfl rfl
  | readSync keyId => exact .readSync keyId rfl rfl
  | trip keyId => exact .updated keyId rfl
  | reset keyId => exact .updated keyId rfl
  | recordSuccess keyId => exact .updated keyId rfl
  | recordFailure keyId => exact .updated keyId rfl
  | recordStatusCode keyId statusCode => exact b.recordStatusCode_served s keyId statusCode now
  | clearMemoryCache => exact .evicted rfl rfl

/-- A call on one key leaves the record of every other key unchanged. -/
theorem serve_agreeAt (s : Store) (now : Int) {call : Call} {keyId other : String}
    (target : call.target b = some keyId) (h : other ≠ keyId) :
    CachedStore.AgreeAt b.getStorageKey other (b.serve s now call) s := by
  have served := b.serve_served s now call
  generalize b.serve s now call = after at served ⊢
  cases served with
  | updated id targeted =>
    cases target.symm.trans targeted
    exact b.update_agreeAt _ s id now h
  | unchanged => exact .refl other s
  | read id targeted =>
    cases target.symm.trans targeted
    exact b.getData_agreeAt s id now h
  | readSync id targeted =>
    cases target.symm.trans targeted
    exact b.getDataSync_agreeAt s id now h
  | evicted untargeted => cases target.symm.trans untargeted

/-! ## The data invariant -/

/-- What a record always satisfies, at or after the clock's last reading. -/
structure Sound (clock : Int) (data : CircuitBreakerData) : Prop where
  opened : data.state = .open → ∃ openedAt, data.openedAt = some openedAt ∧ openedAt ≤ clock
  closed : data.state = .closed →
    data.openedAt = none ∧ data.consecutiveFailures < b.failureThreshold
  counting : data.consecutiveSuccesses ≠ 0 → data.state = .halfOpen
  below : data.consecutiveSuccesses < b.halfOpenSuccessThreshold

variable {b} {clock now : Int} {data : CircuitBreakerData}

theorem Sound.later (sound : b.Sound clock data) (le : clock ≤ now) : b.Sound now data where
  opened is_open := by
    obtain ⟨openedAt, opened, past⟩ := sound.opened is_open
    exact ⟨openedAt, opened, Int.le_trans past le⟩
  closed := sound.closed
  counting := sound.counting
  below := sound.below

theorem Sound.uncounted (sound : b.Sound clock data) (state : data.state ≠ .halfOpen) :
    data.consecutiveSuccesses = 0 := by
  by_contra counting
  exact state (sound.counting counting)

theorem Sound.default (failures : 1 ≤ b.failureThreshold)
    (successes : 1 ≤ b.halfOpenSuccessThreshold) :
    b.Sound clock createDefaultCircuitBreakerData where
  opened is_open := by cases is_open
  closed _ := ⟨rfl, failures⟩
  counting some := absurd rfl some
  below := successes

theorem Sound.evaluateCooldown (sound : b.Sound clock data)
    (successes : 1 ≤ b.halfOpenSuccessThreshold) (now : Int) :
    b.Sound clock (data.evaluateCooldown now b.cooldownMs) := by
  unfold CircuitBreakerData.evaluateCooldown
  split
  · constructor
    · intro is_open
      cases is_open
    · intro closed
      cases closed
    · intro counting
      exact absurd rfl counting
    · exact successes
  · exact sound

theorem Sound.applyTrip (successes : 1 ≤ b.halfOpenSuccessThreshold) :
    b.Sound now (data.applyTrip now b.failureThreshold) where
  opened _ := ⟨now, rfl, Int.le_refl now⟩
  closed closed := by cases closed
  counting counting := absurd rfl counting
  below := successes

/-- A closed record with no counts. -/
theorem Sound.calm (failures : 1 ≤ b.failureThreshold)
    (successes : 1 ≤ b.halfOpenSuccessThreshold) (failure success : Option Int) :
    b.Sound clock ⟨.closed, 0, 0, failure, success, none⟩ where
  opened is_open := by cases is_open
  closed _ := ⟨rfl, failures⟩
  counting some := absurd rfl some
  below := successes

theorem Sound.applySuccess (sound : b.Sound clock data) (failures : 1 ≤ b.failureThreshold)
    (successes : 1 ≤ b.halfOpenSuccessThreshold) :
    b.Sound clock (data.applySuccess now b.halfOpenSuccessThreshold) := by
  cases state : data.state with
  | closed =>
    obtain ⟨unopened, -⟩ := sound.closed state
    have none := sound.uncounted (by simp [state])
    simp only [CircuitBreakerData.applySuccess, state, none, unopened]
    exact .calm failures successes _ _
  | «open» =>
    simp only [CircuitBreakerData.applySuccess, state]
    exact .calm failures successes _ _
  | halfOpen =>
    simp only [CircuitBreakerData.applySuccess, state]
    split
    · exact .calm failures successes _ _
    · rename_i wanting
      constructor
      · intro is_open
        cases is_open
      · intro closed
        cases closed
      · intro _
        rfl
      · exact Nat.not_le.mp wanting

/-- A record that opened now. -/
theorem Sound.opening (successes : 1 ≤ b.halfOpenSuccessThreshold) (failures : Nat)
    (failure success : Option Int) : b.Sound now ⟨.open, failures, 0, failure, success, some now⟩
    where
  opened _ := ⟨now, rfl, Int.le_refl now⟩
  closed closed := by cases closed
  counting counting := absurd rfl counting
  below := successes

theorem Sound.applyFailure (sound : b.Sound now data)
    (successes : 1 ≤ b.halfOpenSuccessThreshold) :
    b.Sound now (data.applyFailure now b.failureThreshold) := by
  cases state : data.state with
  | closed =>
    obtain ⟨unopened, -⟩ := sound.closed state
    have none := sound.uncounted (by simp [state])
    simp only [CircuitBreakerData.applyFailure, state]
    split
    · exact .opening successes _ _ _
    · rename_i below
      constructor
      · intro is_open
        cases is_open
      · intro _
        exact ⟨unopened, Nat.not_le.mp below⟩
      · intro counting
        exact absurd none counting
      · exact sound.below
  | «open» =>
    have none := sound.uncounted (by simp [state])
    simp only [CircuitBreakerData.applyFailure, state]
    constructor
    · intro _
      exact sound.opened state
    · intro closed
      cases closed
    · intro counting
      exact absurd none counting
    · exact sound.below
  | halfOpen =>
    simp only [CircuitBreakerData.applyFailure, state]
    exact .opening successes _ _ _

theorem Sound.apply (sound : b.Sound now data) (failures : 1 ≤ b.failureThreshold)
    (successes : 1 ≤ b.halfOpenSuccessThreshold) (effect : Effect) :
    b.Sound now (effect.apply b now data) := by
  cases effect with
  | none => exact sound
  | trip => exact .applyTrip successes
  | reset => exact .default failures successes
  | success => exact sound.applySuccess failures successes
  | failure => exact sound.applyFailure successes

/-! ## Runs -/

/-- Every record is sound, in memory and in storage. -/
def SoundStore (b : CircuitBreaker) (clock : Int) (s : Store) : Prop :=
  s.Everywhere b.getStorageKey createDefaultCircuitBreakerData fun _ data => b.Sound clock data

theorem SoundStore.getData {s : Store} (sound : SoundStore b now s)
    (successes : 1 ≤ b.halfOpenSuccessThreshold) (keyId : Option String) :
    SoundStore b now (b.getData s keyId now).2 := by
  have cooled : b.Sound now (b.view s (b.resolveKeyId keyId) now) :=
    (sound _).2.evaluateCooldown successes now
  simp only [CircuitBreaker.getData]
  split
  · exact sound.save b.getStorageKey_injective cooled fun _ _ _ kept => kept
  · exact sound.setCache cooled

theorem SoundStore.getDataSync {s : Store} (sound : SoundStore b now s)
    (successes : 1 ≤ b.halfOpenSuccessThreshold) (keyId : Option String) :
    SoundStore b now (b.getDataSync s keyId now).2 := by
  simp only [CircuitBreaker.getDataSync]
  cases cached : s.cache (b.resolveKeyId keyId) with
  | none => exact sound
  | some data =>
    have loaded := (sound (b.resolveKeyId keyId)).2
    rw [CachedStore.load, cached, Option.getD_some] at loaded
    exact sound.setCache (loaded.evaluateCooldown successes now)

theorem SoundStore.serve {s : Store} (sound : SoundStore b now s)
    (failures : 1 ≤ b.failureThreshold) (successes : 1 ≤ b.halfOpenSuccessThreshold)
    (call : Call) : SoundStore b now (b.serve s now call) := by
  have served := b.serve_served s now call
  generalize b.serve s now call = after at served ⊢
  cases served with
  | updated keyId =>
    have read := sound.getData successes (some (b.resolveKeyId keyId))
    have found := (sound (b.resolveKeyId keyId)).2.evaluateCooldown successes now
    exact read.save b.getStorageKey_injective (found.apply failures successes (call.effect b))
      fun _ _ _ kept => kept
  | unchanged => exact sound
  | read keyId => exact sound.getData successes keyId
  | readSync keyId => exact sound.getDataSync successes keyId
  | evicted => exact sound.evict

/-- In every run of calls on any keys, every record is sound, and a call on one key leaves
the record of every other one alone. -/
theorem data_invariant (failures : 1 ≤ b.failureThreshold)
    (successes : 1 ≤ b.halfOpenSuccessThreshold) (clock : Int) (calls : List (Call × Int))
    (ordered : Transition.Guarded b.step Ordered (.start clock) calls) :
    ∀ run ∈ Transition.reached b.step (.start clock) calls,
      (∀ id,
        b.Sound run.clock
          (run.store.stored b.getStorageKey createDefaultCircuitBreakerData id) ∧
        b.Sound run.clock (b.load run.store id)) ∧
      ∀ call keyId other, call.1.target b = some keyId → other ≠ keyId →
        CachedStore.AgreeAt b.getStorageKey other (b.step run call).store run.store := by
  intro run reached
  have start : SoundStore b clock .empty :=
    CachedStore.Everywhere.empty fun _ => .default failures successes
  have keep : ∀ run call, SoundStore b run.clock run.store → Ordered run call →
      SoundStore b (b.step run call).clock (b.step run call).store := by
    intro run call sound ordered
    have later : SoundStore b call.2 run.store := sound.imp fun _ _ kept => kept.later ordered
    exact later.serve failures successes call.1
  have sound := Transition.invariant_of_guarded
    (I := fun run : Run => SoundStore b run.clock run.store) keep start ordered run reached
  refine ⟨sound, ?_⟩
  intro call keyId other target h
  exact b.serve_agreeAt run.store call.2 target h

/-- The default breaker: a trip, an eviction and a success of another key. -/
theorem data_invariant_default :
    Sound (create {}) 2 ((create {}).load
      ([(.trip (some "k1"), 0), (.clearMemoryCache, 1), (.recordSuccess (some "k2"), 2)].foldl
        (create {}).step (.start 0)).store "k1") :=
  ((data_invariant (by decide) (by decide) 0
    [(.trip (some "k1"), 0), (.clearMemoryCache, 1), (.recordSuccess (some "k2"), 2)]
    ⟨by simp [Ordered, Run.start], by simp [Ordered, step], by simp [Ordered, step], trivial⟩ _
    (Transition.foldl_mem_reached _ _ _)).1 "k1").2

end KeyCollective.CircuitBreaker
