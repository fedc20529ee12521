import KeyCollective.Constants

/-!
# The circuit breaker's transitions

`CLOSED -> OPEN -> HALF_OPEN -> CLOSED`, on the state kept for one key.
-/

namespace KeyCollective

inductive CircuitBreakerState where
  | closed
  | open
  | halfOpen
deriving DecidableEq, Repr

structure CircuitBreakerData where
  state : CircuitBreakerState
  consecutiveFailures : Nat
  consecutiveSuccesses : Nat
  lastFailureTime : Option Int
  lastSuccessTime : Option Int
  openedAt : Option Int
deriving DecidableEq, Repr

def createDefaultCircuitBreakerData : CircuitBreakerData := ⟨.closed, 0, 0, none, none, none⟩

namespace CircuitBreakerData

/-- The cooldown of an open breaker is over. -/
def cooled (data : CircuitBreakerData) (now cooldownMs : Int) : Bool :=
  match data.state, data.openedAt with
  | .open, some openedAt => decide (cooldownMs ≤ now - openedAt)
  | _, _ => false

/-- An open breaker half-opens once its cooldown is over. -/
def evaluateCooldown (data : CircuitBreakerData) (now cooldownMs : Int) : CircuitBreakerData :=
  if data.cooled now cooldownMs then { data with state := .halfOpen, consecutiveSuccesses := 0 }
  else data

def applyTrip (data : CircuitBreakerData) (now : Int) (failureThreshold : Nat) :
    CircuitBreakerData :=
  { data with
    state := .open
    openedAt := some now
    lastFailureTime := some now
    consecutiveFailures := max data.consecutiveFailures failureThreshold
    consecutiveSuccesses := 0 }

def applyReset (_ : CircuitBreakerData) : CircuitBreakerData := createDefaultCircuitBreakerData

def applySuccess (data : CircuitBreakerData) (now : Int) (halfOpenSuccessThreshold : Nat) :
    CircuitBreakerData :=
  let data := { data with lastSuccessTime := some now }
  match data.state with
  | .halfOpen =>
    let data := { data with consecutiveSuccesses := data.consecutiveSuccesses + 1 }
    if halfOpenSuccessThreshold ≤ data.consecutiveSuccesses then
      { data with
        state := .closed, consecutiveFailures := 0, consecutiveSuccesses := 0, openedAt := none }
    else data
  | .closed => { data with consecutiveFailures := 0 }
  | .open =>
    { data with
      state := .closed, consecutiveFailures := 0, consecutiveSuccesses := 0, openedAt := none }

def applyFailure (data : CircuitBreakerData) (now : Int) (failureThreshold : Nat) :
    CircuitBreakerData :=
  let data := { data with
    lastFailureTime := some now, consecutiveFailures := data.consecutiveFailures + 1 }
  match data.state with
  | .closed =>
    if failureThreshold ≤ data.consecutiveFailures then
      { data with state := .open, openedAt := some now, consecutiveSuccesses := 0 }
    else data
  | .halfOpen => { data with state := .open, openedAt := some now, consecutiveSuccesses := 0 }
  | .open => data

/-- The breaker lets requests through. -/
def permits (data : CircuitBreakerData) : Bool :=
  data.state = .closed ∨ data.state = .halfOpen

theorem evaluateCooldown_of_not_open {data : CircuitBreakerData} (now cooldownMs : Int)
    (h : data.state ≠ .open) : data.evaluateCooldown now cooldownMs = data := by
  cases state : data.state <;> simp_all [evaluateCooldown, cooled]

/-- Evaluating the cooldown twice at one instant is evaluating it once. -/
@[simp] theorem evaluateCooldown_idem (data : CircuitBreakerData) (now cooldownMs : Int) :
    (data.evaluateCooldown now cooldownMs).evaluateCooldown now cooldownMs =
      data.evaluateCooldown now cooldownMs := by
  by_cases elapsed : data.cooled now cooldownMs = true
  · refine evaluateCooldown_of_not_open now cooldownMs ?_
    simp [evaluateCooldown, elapsed]
  · simp [evaluateCooldown, elapsed]

/-- A cooldown that is over stays over. -/
theorem cooled_later {data : CircuitBreakerData} {now later cooldownMs : Int}
    (elapsed : data.cooled now cooldownMs = true) (le : now ≤ later) :
    data.cooled later cooldownMs = true := by
  unfold cooled at elapsed ⊢
  split at elapsed
  · have due := of_decide_eq_true elapsed
    apply decide_eq_true
    omega
  · cases elapsed

/-- A breaker may half-open at an earlier reading: a later one finds the same. -/
theorem evaluateCooldown_later (data : CircuitBreakerData) {now later : Int} (cooldownMs : Int)
    (le : now ≤ later) :
    (data.evaluateCooldown now cooldownMs).evaluateCooldown later cooldownMs =
      data.evaluateCooldown later cooldownMs := by
  by_cases elapsed : data.cooled now cooldownMs = true
  · have still := cooled_later elapsed le
    rw [evaluateCooldown_of_not_open later cooldownMs (by simp [evaluateCooldown, elapsed])]
    simp only [evaluateCooldown, elapsed, still, ↓reduceIte]
  · simp only [evaluateCooldown, elapsed]
    rfl

/-- What the breaker decides by. The times of the last failure and the last success are
only kept. -/
def core (data : CircuitBreakerData) : CircuitBreakerState × Nat × Nat × Option Int :=
  (data.state, data.consecutiveFailures, data.consecutiveSuccesses, data.openedAt)

/-- Every count of failures is at zero: a success changes nothing the breaker decides by. -/
def Calm (data : CircuitBreakerData) : Prop :=
  data.state = .closed ∧ data.consecutiveFailures = 0

/-- A success leaves the breaker closed, unless it half-opened and wants more of them. -/
def Closing (data : CircuitBreakerData) (halfOpenSuccessThreshold : Nat) : Prop :=
  data.state = .halfOpen → halfOpenSuccessThreshold ≤ data.consecutiveSuccesses + 1

theorem core_evaluateCooldown {data other : CircuitBreakerData} (same : data.core = other.core)
    (now cooldownMs : Int) :
    (data.evaluateCooldown now cooldownMs).core = (other.evaluateCooldown now cooldownMs).core := by
  cases data
  cases other
  simp only [core, Prod.mk.injEq] at same
  obtain ⟨rfl, rfl, rfl, rfl⟩ := same
  unfold evaluateCooldown cooled
  dsimp only
  split
  · split <;> rfl
  · rfl

theorem core_applySuccess {data other : CircuitBreakerData} (same : data.core = other.core)
    (now : Int) (threshold : Nat) :
    (data.applySuccess now threshold).core = (other.applySuccess now threshold).core := by
  cases data
  cases other
  simp only [core, Prod.mk.injEq] at same
  obtain ⟨rfl, rfl, rfl, rfl⟩ := same
  unfold applySuccess
  dsimp only
  split
  · split <;> rfl
  · rfl
  · rfl

theorem core_applyFailure {data other : CircuitBreakerData} (same : data.core = other.core)
    (now : Int) (threshold : Nat) :
    (data.applyFailure now threshold).core = (other.applyFailure now threshold).core := by
  cases data
  cases other
  simp only [core, Prod.mk.injEq] at same
  obtain ⟨rfl, rfl, rfl, rfl⟩ := same
  unfold applyFailure
  dsimp only
  split
  · split <;> rfl
  · rfl
  · rfl

/-- The instant of a success is not something the breaker decides by. -/
theorem core_applySuccess_now (data : CircuitBreakerData) (now later : Int) (threshold : Nat) :
    (data.applySuccess now threshold).core = (data.applySuccess later threshold).core := by
  unfold applySuccess
  dsimp only
  split
  · split <;> rfl
  · rfl
  · rfl

theorem calm_applySuccess {data : CircuitBreakerData} {threshold : Nat}
    (closing : data.Closing threshold) (now : Int) : (data.applySuccess now threshold).Calm := by
  cases state : data.state with
  | closed => simp [applySuccess, state, Calm]
  | «open» => simp [applySuccess, state, Calm]
  | halfOpen =>
    have enough := closing state
    simp [applySuccess, state, Calm, enough]

theorem core_applySuccess_calm {data : CircuitBreakerData} (calm : data.Calm) (now : Int)
    (threshold : Nat) : (data.applySuccess now threshold).core = data.core := by
  obtain ⟨closed, failures⟩ := calm
  simp [applySuccess, core, closed, failures]

end CircuitBreakerData

end KeyCollective
