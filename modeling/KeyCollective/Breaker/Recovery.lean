import KeyCollective.Breaker.Eviction

/-!
# Recovery

Between an instant a key is open and a later one it is closed, its cooldown runs out and
enough successes in a row are recorded while it is half-open, unless a success is recorded
while it is open. Such a success closes the key at once.
-/

namespace KeyCollective.CircuitBreaker

/-- A run that remembers when each key was last tripped. -/
structure Watch extends Run where
  trippedAt : String → Option Int

def Watch.start (clock : Int) : Watch := ⟨.start clock, fun _ => none⟩

variable (b : CircuitBreaker)

/-- The state of a key at an instant after the run. -/
def Watch.stateAt (w : Watch) (id : String) (now : Int) : CircuitBreakerState :=
  (b.view w.store id now).state

/-- A call trips a key that is not open, or trips it by name. -/
def Trips (w : Watch) (id : String) (call : Call × Int) : Prop :=
  call.1.target b = some id ∧ (call.1.effect b = .trip ∨ w.stateAt b id call.2 ≠ .open ∧
    ((call.1.effect b).apply b call.2 (b.view w.store id call.2)).state = .open)

instance (w : Watch) (id : String) (call : Call × Int) : Decidable (b.Trips w id call) :=
  inferInstanceAs (Decidable (_ ∧ _))

def watch (w : Watch) (call : Call × Int) : Watch where
  toRun := b.step w.toRun call
  trippedAt id := if b.Trips w id call then some call.2 else w.trippedAt id

def OrderedWatch (w : Watch) (call : Call × Int) : Prop := Ordered w.toRun call

/-- A call records a success of the key. -/
def Succeeds (id : String) (call : Call × Int) : Prop :=
  call.1.target b = some id ∧ call.1.effect b = .success

instance (id : String) (call : Call × Int) : Decidable (b.Succeeds id call) :=
  inferInstanceAs (Decidable (_ ∧ _))

/-- The key is not reset, and no success of it is recorded while it is open. -/
def Recovering (id : String) (w : Watch) (call : Call × Int) : Prop :=
  (call.1.target b = some id → call.1.effect b ≠ .reset) ∧
    (b.Succeeds id call → w.stateAt b id call.2 ≠ .open)

instance (id : String) (w : Watch) (call : Call × Int) : Decidable (b.Recovering id w call) :=
  inferInstanceAs (Decidable ((_ → _) ∧ (_ → _)))

/-- The key is half-open when the call arrives, and the call is no failure of it. -/
def Probes (id : String) (w : Watch) (call : Call × Int) : Prop :=
  w.stateAt b id call.2 = .halfOpen ∧
    (call.1.target b = some id → call.1.effect b = .none ∨ call.1.effect b = .success)

/-- The calls split in some that leave the key alone until its cooldown is over at `instant`,
with the key half-open, and probes that follow with no failure between them. -/
structure Probed (id : String) (w : Watch) (idle probes : List (Call × Int)) (instant : Int) :
    Prop where
  past : (idle.foldl b.watch w).clock ≤ instant
  first : ∀ call ∈ probes, instant ≤ call.2
  halfOpen : (idle.foldl b.watch w).stateAt b id instant = .halfOpen
  cooled : ∃ trippedAt, (idle.foldl b.watch w).trippedAt id = some trippedAt ∧
    b.cooldownMs ≤ instant - trippedAt
  probing : Transition.Guarded b.watch (b.Probes id) (idle.foldl b.watch w) probes

def successes (id : String) (calls : List (Call × Int)) : Nat :=
  (calls.filter fun call => b.Succeeds id call).length

/-- A recovery lies among the calls. -/
def Recovered (id : String) (w : Watch) (calls : List (Call × Int)) : Prop :=
  ∃ idle probes rest instant, calls = idle ++ probes ++ rest ∧
    b.Probed id w idle probes instant ∧ b.halfOpenSuccessThreshold ≤ b.successes id probes

/-! ## What a key went through since it was open -/

/-- A key that is not closed opened when it was last tripped. -/
structure Faithful (w : Watch) : Prop where
  durable : b.Durable w.clock w.store
  opened : ∀ id, w.stateAt b id w.clock ≠ .closed →
    (b.view w.store id w.clock).openedAt = w.trippedAt id

/-- After some calls since the key was open, as it is found at `now`. -/
inductive Progress (id : String) (w : Watch) (done : List (Call × Int)) (now : Int) : Prop where
  | recovered (recovered : b.Recovered id w done)
  | «open» (still : (done.foldl b.watch w).stateAt b id now = .open)
  | probing (idle probes : List (Call × Int)) (instant : Int) (split : done = idle ++ probes)
    (before : instant ≤ now) (probed : b.Probed id w idle probes instant)
    (halfOpen : (done.foldl b.watch w).stateAt b id now = .halfOpen)
    (counted : (b.view (done.foldl b.watch w).store id now).consecutiveSuccesses ≤
      b.successes id probes)

variable {b}

/-- A reading leaves a record as it is, or half-opens one whose cooldown is over. -/
theorem evaluateCooldown_cases (data : CircuitBreakerData) (now cooldownMs : Int) :
    data.evaluateCooldown now cooldownMs = data ∨
      ∃ openedAt, data.state = .open ∧ data.openedAt = some openedAt ∧
        cooldownMs ≤ now - openedAt ∧
        data.evaluateCooldown now cooldownMs =
          { data with state := .halfOpen, consecutiveSuccesses := 0 } := by
  by_cases elapsed : data.cooled now cooldownMs = true
  · have cooled := elapsed
    unfold CircuitBreakerData.cooled at elapsed
    split at elapsed
    · rename_i openedAt is_open opened
      exact Or.inr ⟨openedAt, is_open, opened, of_decide_eq_true elapsed,
        by simp only [CircuitBreakerData.evaluateCooldown, cooled, ↓reduceIte]⟩
    · cases elapsed
  · exact Or.inl (by simp only [CircuitBreakerData.evaluateCooldown, elapsed]; rfl)

theorem evaluateCooldown_openedAt (data : CircuitBreakerData) (now cooldownMs : Int) :
    (data.evaluateCooldown now cooldownMs).openedAt = data.openedAt := by
  rcases evaluateCooldown_cases data now cooldownMs with same | ⟨_, _, _, _, same⟩
  · rw [same]
  · rw [same]

theorem evaluateCooldown_closed_iff (data : CircuitBreakerData) (now cooldownMs : Int) :
    (data.evaluateCooldown now cooldownMs).state = .closed ↔ data.state = .closed := by
  rcases evaluateCooldown_cases data now cooldownMs with same | ⟨_, is_open, _, _, same⟩
  · rw [same]
  · simp [same, is_open]

/-- What an effect leaves open was opened by it, or was not closed before. -/
theorem Effect.openedAt (effect : Effect) (now : Int) (data : CircuitBreakerData)
    (unclosed : (effect.apply b now data).state ≠ .closed) :
    if effect = .trip ∨ data.state ≠ .open ∧ (effect.apply b now data).state = .open then
      (effect.apply b now data).openedAt = some now
    else
      data.state ≠ .closed ∧ (effect.apply b now data).openedAt = data.openedAt := by
  cases effect with
  | none =>
    have untripped : ¬ (Effect.none = .trip ∨ data.state ≠ .open ∧
        (Effect.none.apply b now data).state = .open) := by
      rintro (trip | ⟨shut, is_open⟩)
      · cases trip
      · exact shut is_open
    rw [if_neg untripped]
    exact ⟨unclosed, rfl⟩
  | trip =>
    rw [if_pos (Or.inl rfl)]
    rfl
  | reset => exact absurd rfl unclosed
  | success =>
    simp only [apply, CircuitBreakerData.applySuccess] at unclosed ⊢
    cases state : data.state with
    | closed => simp [state] at unclosed
    | «open» => simp [state] at unclosed
    | halfOpen =>
      simp only [state] at unclosed ⊢
      split at unclosed
      · exact absurd rfl unclosed
      · rename_i wanting
        simp [wanting]
  | failure =>
    simp only [apply, CircuitBreakerData.applyFailure] at unclosed ⊢
    cases state : data.state with
    | closed =>
      simp only [state] at unclosed ⊢
      split at unclosed
      · rename_i reached
        simp [reached]
      · exact absurd rfl unclosed
    | «open» => simp
    | halfOpen => simp

theorem Faithful.opened_later {w : Watch} (faithful : b.Faithful w) {now : Int}
    (le : w.clock ≤ now) {id : String} (unclosed : w.stateAt b id now ≠ .closed) :
    (b.view w.store id now).openedAt = w.trippedAt id := by
  have earlier := b.view_later w.store id le
  have before : w.stateAt b id w.clock ≠ .closed := by
    intro closed
    apply unclosed
    rw [Watch.stateAt, earlier]
    exact (evaluateCooldown_closed_iff _ _ _).mpr closed
  rw [earlier, evaluateCooldown_openedAt]
  exact faithful.opened id before

theorem faithful_start (clock : Int) : b.Faithful (.start clock) where
  durable := durable_over _ clock
  opened _ unclosed := absurd rfl unclosed

theorem Faithful.watch {w : Watch} (faithful : b.Faithful w) {call : Call × Int}
    (le : w.clock ≤ call.2) : b.Faithful (b.watch w call) where
  durable := (faithful.durable.later le).serve call.1
  opened id unclosed := by
    have seen := (faithful.durable.later le).view_serve call.1 id
    have found : b.view (b.watch w call).store id (b.watch w call).clock =
        b.view (b.serve w.store call.2 call.1) id call.2 := rfl
    rw [Watch.stateAt, found, seen] at unclosed
    rw [found, seen]
    by_cases target : call.1.target b = some id
    · simp only [target, ↓reduceIte] at unclosed ⊢
      have unclosed' := fun closed => unclosed ((evaluateCooldown_closed_iff _ _ _).mpr closed)
      have opened := (call.1.effect b).openedAt call.2 (b.view w.store id call.2) unclosed'
      rw [evaluateCooldown_openedAt]
      simp only [CircuitBreaker.watch, Trips, target, Watch.stateAt, true_and]
      split at opened
      · rename_i trips
        rw [if_pos trips]
        exact opened
      · rename_i still
        rw [if_neg still, opened.2]
        exact faithful.opened_later le opened.1
    · simp only [target, ↓reduceIte] at unclosed ⊢
      simp only [CircuitBreaker.watch, Trips, target, false_and, ↓reduceIte]
      exact faithful.opened_later le unclosed

/-! ## One call -/

variable {id : String} {w : Watch} {done : List (Call × Int)} {now : Int}

/-- An open key that is read at `now` is open still, or its cooldown is over. -/
theorem Progress.of_open (faithful : b.Faithful (done.foldl b.watch w))
    (le : (done.foldl b.watch w).clock ≤ now) {data : CircuitBreakerData}
    (is_open : data.state = .open)
    (read : b.view (done.foldl b.watch w).store id now = data.evaluateCooldown now b.cooldownMs) :
    b.Progress id w done now := by
  rcases evaluateCooldown_cases data now b.cooldownMs with same | ⟨openedAt, -, opened, due, half⟩
  · apply Progress.open
    rw [Watch.stateAt, read, same]
    exact is_open
  · have halfOpen : (done.foldl b.watch w).stateAt b id now = .halfOpen := by
      rw [Watch.stateAt, read, half]
    have since : (done.foldl b.watch w).trippedAt id = some openedAt := by
      rw [← faithful.opened_later le (by rw [halfOpen]; decide), read, half]
      exact opened
    refine .probing done [] now (List.append_nil done).symm (Int.le_refl now)
      { past := le
        first := fun _ mem => absurd mem List.not_mem_nil
        halfOpen := halfOpen
        cooled := ⟨openedAt, since, due⟩
        probing := trivial }
      halfOpen ?_
    rw [read, half]
    exact Nat.zero_le _

/-- Time passes. -/
theorem Progress.later (progress : b.Progress id w done now)
    (faithful : b.Faithful (done.foldl b.watch w)) (le : (done.foldl b.watch w).clock ≤ now)
    {later : Int} (passes : now ≤ later) : b.Progress id w done later := by
  have read := b.view_later (done.foldl b.watch w).store id passes
  cases progress with
  | recovered recovered => exact .recovered recovered
  | «open» still => exact .of_open faithful (Int.le_trans le passes) still read
  | probing idle probes instant split before probed halfOpen counted =>
    have same : b.view (done.foldl b.watch w).store id later =
        b.view (done.foldl b.watch w).store id now := by
      rw [read]
      apply CircuitBreakerData.evaluateCooldown_of_not_open
      intro is_open
      cases halfOpen.symm.trans is_open
    refine .probing idle probes instant split (Int.le_trans before passes) probed ?_ ?_
    · rw [Watch.stateAt, same]
      exact halfOpen
    · rw [same]
      exact counted

theorem Recovered.snoc (recovered : b.Recovered id w done) (call : Call × Int) :
    b.Recovered id w (done ++ [call]) := by
  obtain ⟨idle, probes, rest, instant, rfl, probed, enough⟩ := recovered
  exact ⟨idle, probes, rest ++ [call], instant, by simp, probed, enough⟩

/-- A call that finds the key half-open and is no failure of it is one more probe. -/
theorem Probed.snoc {idle probes : List (Call × Int)} {instant : Int} {call : Call × Int}
    (probed : b.Probed id w idle probes instant) (first : instant ≤ call.2)
    (probe : b.Probes id ((idle ++ probes).foldl b.watch w) call) :
    b.Probed id w idle (probes ++ [call]) instant where
  past := probed.past
  first other mem := by
    rcases List.mem_append.mp mem with mem | mem
    · exact probed.first other mem
    · rw [List.mem_singleton.mp mem]
      exact first
  halfOpen := probed.halfOpen
  cooled := probed.cooled
  probing := by
    rw [Transition.guarded_append]
    rw [List.foldl_append] at probe
    exact ⟨probed.probing, probe, trivial⟩

theorem successes_snoc (probes : List (Call × Int)) (call : Call × Int) :
    b.successes id (probes ++ [call]) =
      b.successes id probes + if b.Succeeds id call then 1 else 0 := by
  unfold successes
  rw [List.filter_append, List.length_append]
  by_cases succeeds : b.Succeeds id call
  · simp [succeeds]
  · simp [succeeds]

/-- Short of a reset or a success, an open record stays open. -/
theorem Effect.apply_open {effect : Effect} {data : CircuitBreakerData}
    (is_open : data.state = .open) (kept : effect ≠ .reset) (failing : effect ≠ .success) :
    (effect.apply b now data).state = .open := by
  cases effect with
  | none => exact is_open
  | trip => rfl
  | reset => exact absurd rfl kept
  | success => exact absurd rfl failing
  | failure => simp [apply, CircuitBreakerData.applyFailure, is_open]

/-- A half-open record opens on a failure or a trip. -/
theorem Effect.apply_halfOpen {effect : Effect} {data : CircuitBreakerData}
    (halfOpen : data.state = .halfOpen) (fails : effect = .trip ∨ effect = .failure) :
    (effect.apply b now data).state = .open := by
  rcases fails with rfl | rfl
  · rfl
  · simp [apply, CircuitBreakerData.applyFailure, halfOpen]

/-- A half-open record counts a success, or closes with enough of them. -/
theorem applySuccess_halfOpen (b : CircuitBreaker) (now : Int) {data : CircuitBreakerData}
    (halfOpen : data.state = .halfOpen) :
    b.halfOpenSuccessThreshold ≤ data.consecutiveSuccesses + 1 ∨
      (data.applySuccess now b.halfOpenSuccessThreshold).state = .halfOpen ∧
      (data.applySuccess now b.halfOpenSuccessThreshold).consecutiveSuccesses =
        data.consecutiveSuccesses + 1 := by
  by_cases enough : b.halfOpenSuccessThreshold ≤ data.consecutiveSuccesses + 1
  · exact Or.inl enough
  · refine Or.inr ?_
    simp [CircuitBreakerData.applySuccess, halfOpen, enough]

/-- A success on a half-open key is its recovery or one more on the way there. -/
theorem Progress.of_success {idle probes : List (Call × Int)} {instant : Int} {call : Call}
    (split : done = idle ++ probes) (before : instant ≤ now)
    (halfOpen : (done.foldl b.watch w).stateAt b id now = .halfOpen)
    (counted : (b.view (done.foldl b.watch w).store id now).consecutiveSuccesses ≤
      b.successes id probes)
    (succeeds : b.Succeeds id (call, now))
    (probed : b.Probed id w idle (probes ++ [(call, now)]) instant)
    (seen : b.view ((done ++ [(call, now)]).foldl b.watch w).store id now =
      ((b.view (done.foldl b.watch w).store id now).applySuccess now
        b.halfOpenSuccessThreshold).evaluateCooldown now b.cooldownMs) :
    b.Progress id w (done ++ [(call, now)]) now := by
  have longer : done ++ [(call, now)] = idle ++ (probes ++ [(call, now)]) := by
    rw [split, List.append_assoc]
  have one : b.successes id (probes ++ [(call, now)]) = b.successes id probes + 1 := by
    rw [successes_snoc, if_pos succeeds]
  rcases applySuccess_halfOpen b now halfOpen with enough | ⟨half, count⟩
  · refine .recovered ⟨idle, probes ++ [(call, now)], [], instant, ?_, probed, ?_⟩
    · rw [List.append_nil, longer]
    · omega
  · have same : b.view ((done ++ [(call, now)]).foldl b.watch w).store id now =
        (b.view (done.foldl b.watch w).store id now).applySuccess now
          b.halfOpenSuccessThreshold := by
      rw [seen]
      apply CircuitBreakerData.evaluateCooldown_of_not_open
      intro is_open
      cases half.symm.trans is_open
    refine .probing idle _ instant longer before probed ?_ ?_
    · rw [Watch.stateAt, same]
      exact half
    · rw [same, count, one]
      omega

/-- A call arrives. -/
theorem Progress.call (progress : b.Progress id w done now)
    (faithful : b.Faithful (done.foldl b.watch w)) {call : Call}
    (le : (done.foldl b.watch w).clock ≤ now)
    (recovering : b.Recovering id (done.foldl b.watch w) (call, now)) :
    b.Progress id w (done ++ [(call, now)]) now := by
  have after : (done ++ [(call, now)]).foldl b.watch w =
      b.watch (done.foldl b.watch w) (call, now) := by
    rw [List.foldl_append]
    rfl
  have faithful' : b.Faithful ((done ++ [(call, now)]).foldl b.watch w) := by
    rw [after]
    exact faithful.watch le
  have le' : ((done ++ [(call, now)]).foldl b.watch w).clock ≤ now := by
    rw [after]
    exact Int.le_refl now
  have seen := (faithful.durable.later le).view_serve call id
  have found : b.view ((done ++ [(call, now)]).foldl b.watch w).store id now =
      b.view (b.serve (done.foldl b.watch w).store now call) id now := by
    rw [after]
    rfl
  rw [← found] at seen
  have idem : (b.view (done.foldl b.watch w).store id now).evaluateCooldown now b.cooldownMs =
      b.view (done.foldl b.watch w).store id now :=
    CircuitBreakerData.evaluateCooldown_idem _ _ _
  cases progress with
  | recovered recovered => exact .recovered (recovered.snoc _)
  | «open» still =>
    by_cases target : call.target b = some id
    · rw [if_pos target] at seen
      have failing : call.effect b ≠ .success := fun success =>
        recovering.2 ⟨target, success⟩ still
      exact .of_open faithful' le'
        (Effect.apply_open still (recovering.1 target) failing) seen
    · rw [if_neg target] at seen
      exact .of_open faithful' le' still (seen.trans idem.symm)
  | probing idle probes instant split before probed halfOpen counted =>
    -- the call is a probe unless it fails; a failure opens the key anew
    have probe : (call.target b = some id → call.effect b = .none ∨ call.effect b = .success) →
        b.Probed id w idle (probes ++ [(call, now)]) instant := fun harmless =>
      probed.snoc before (split ▸ ⟨halfOpen, harmless⟩)
    have longer : done ++ [(call, now)] = idle ++ (probes ++ [(call, now)]) := by
      rw [split, List.append_assoc]
    have quiet : b.view ((done ++ [(call, now)]).foldl b.watch w).store id now =
          b.view (done.foldl b.watch w).store id now →
        (call.target b = some id → call.effect b = .none) →
        b.Progress id w (done ++ [(call, now)]) now := by
      intro same harmless
      refine .probing idle _ instant longer before
        (probe fun target => Or.inl (harmless target)) ?_ ?_
      · rw [Watch.stateAt, same]
        exact halfOpen
      · rw [same, successes_snoc]
        omega
    by_cases target : call.target b = some id
    · rw [if_pos target] at seen
      cases effect : call.effect b with
      | none =>
        rw [effect] at seen
        exact quiet (seen.trans idem) fun _ => effect
      | trip =>
        exact .of_open faithful' le' (Effect.apply_halfOpen halfOpen (Or.inl effect)) seen
      | failure =>
        exact .of_open faithful' le' (Effect.apply_halfOpen halfOpen (Or.inr effect)) seen
      | reset => exact absurd effect (recovering.1 target)
      | success =>
        rw [effect] at seen
        exact .of_success split before halfOpen counted ⟨target, effect⟩
          (probe fun _ => Or.inr effect) seen
    · rw [if_neg target] at seen
      exact quiet seen fun targeted => absurd targeted target

/-! ## Runs -/

/-- The condition on a run: the clock does not run backwards, and the key recovers. -/
def Guard (b : CircuitBreaker) (id : String) (w : Watch) (call : Call × Int) : Prop :=
  OrderedWatch w call ∧ b.Recovering id w call

theorem Faithful.run {calls : List (Call × Int)} (faithful : b.Faithful w)
    (run : Transition.Guarded b.watch (b.Guard id) w calls) :
    b.Faithful (calls.foldl b.watch w) :=
  Transition.invariant_foldl (I := b.Faithful) (fun _ _ faithful guard => faithful.watch guard.1)
    faithful run

theorem Progress.run {calls : List (Call × Int)}
    (progress : b.Progress id w done (done.foldl b.watch w).clock)
    (faithful : b.Faithful (done.foldl b.watch w))
    (run : Transition.Guarded b.watch (b.Guard id) (done.foldl b.watch w) calls) :
    b.Progress id w (done ++ calls) ((done ++ calls).foldl b.watch w).clock := by
  induction calls generalizing done with
  | nil => rwa [List.append_nil]
  | cons call rest ih =>
    obtain ⟨⟨ordered, recovering⟩, run⟩ := run
    have after : (done ++ [call]).foldl b.watch w = b.watch (done.foldl b.watch w) call := by
      rw [List.foldl_append]
      rfl
    have called := (progress.later faithful (Int.le_refl _) ordered).call faithful ordered
      recovering
    rw [List.append_cons]
    apply ih
    · rw [after]
      exact called
    · rw [after]
      exact faithful.watch ordered
    · rw [after]
      exact run

/-- In every run in which the key is not reset and no success of it is recorded while it is
open: if the key is open at one time and closed at a later one, its cooldown runs out in
between, and then enough successes are recorded while it is half-open, no failure among
them. -/
theorem recovers (b : CircuitBreaker) (id : String) (clock : Int)
    (before between : List (Call × Int))
    (run : Transition.Guarded b.watch (b.Guard id) (.start clock) (before ++ between)) :
    ∀ now later, (before.foldl b.watch (.start clock)).clock ≤ now →
      (before.foldl b.watch (.start clock)).stateAt b id now = .open →
      ((before ++ between).foldl b.watch (.start clock)).clock ≤ later →
      ((before ++ between).foldl b.watch (.start clock)).stateAt b id later = .closed →
      b.Recovered id (before.foldl b.watch (.start clock)) between := by
  intro now later le is_open le' closed
  rw [Transition.guarded_append] at run
  have faithful := (faithful_start clock).run run.1
  have still : (before.foldl b.watch (.start clock)).stateAt b id
      (before.foldl b.watch (.start clock)).clock = .open := by
    have earlier := b.view_later (before.foldl b.watch (.start clock)).store id le
    rw [Watch.stateAt, earlier] at is_open
    rcases evaluateCooldown_cases _ now b.cooldownMs with same | ⟨_, _, _, _, half⟩
    · rw [same] at is_open
      exact is_open
    · rw [half] at is_open
      cases is_open
  have start : b.Progress id (before.foldl b.watch (.start clock)) []
      (before.foldl b.watch (.start clock)).clock := .open still
  have progress := start.run faithful run.2
  rw [List.foldl_append] at closed le'
  have shut : (between.foldl b.watch (before.foldl b.watch (.start clock))).stateAt b id
      (between.foldl b.watch (before.foldl b.watch (.start clock))).clock = .closed := by
    have read := b.view_later
      (between.foldl b.watch (before.foldl b.watch (.start clock))).store id le'
    rw [Watch.stateAt, read] at closed
    exact (evaluateCooldown_closed_iff _ _ _).mp closed
  cases progress with
  | recovered recovered => exact recovered
  | «open» still => cases still.symm.trans shut
  | probing _ _ _ _ _ _ halfOpen => cases halfOpen.symm.trans shut

/-- A trip, a probe after the minute of the default cooldown. -/
theorem recovers_default :
    (create {}).Recovered "k1" (([(.trip (some "k1"), 0)] : List (Call × Int)).foldl
      (create {}).watch (.start 0)) [(.recordSuccess (some "k1"), 60000)] := by
  refine recovers (create {}) "k1" 0 [(.trip (some "k1"), 0)]
    [(.recordSuccess (some "k1"), 60000)] ?_ 1 60001 (by decide) (by decide) (by decide)
    (by decide)
  exact ⟨⟨by simp [OrderedWatch, Ordered, Watch.start, Run.start], by decide⟩,
    ⟨by simp [OrderedWatch, Ordered, watch, step], by decide⟩, trivial⟩

/-- A success that arrives a second after the trip closes the key. -/
theorem late_success_closes :
    (([(.trip (some "k1"), 0)] : List (Call × Int)).foldl (create {}).watch
      (.start 0)).stateAt (create {}) "k1" 1000 = .open ∧
    (([(.trip (some "k1"), 0), (.recordSuccess (some "k1"), 1000)] : List (Call × Int)).foldl
      (create {}).watch (.start 0)).stateAt (create {}) "k1" 1000 = .closed ∧
    ¬ (create {}).Recovered "k1" (([(.trip (some "k1"), 0)] : List (Call × Int)).foldl
      (create {}).watch (.start 0)) [(.recordSuccess (some "k1"), 1000)] := by
  refine ⟨by decide, by decide, ?_⟩
  rintro ⟨idle, probes, rest, instant, split, probed, enough⟩
  cases probes with
  | nil => exact absurd enough (by decide)
  | cons probe probes =>
    have halfOpen := probed.probing.1.1
    cases idle with
    | nil =>
      obtain ⟨rfl, -⟩ := List.cons.inj split
      exact absurd halfOpen (by decide)
    | cons call idle => simp at split

end KeyCollective.CircuitBreaker
