import KeyCollective.Auth.SybilEngines
import KeyCollective.Lib.Interleaving

/-!
# One builder per subnet

Calls of both engines share a tracker. A call starts with a reading of the clock, waits for its
signals, takes its count, waits for that too, and then grades and records in one go. Between
these points the other calls run.

The count and the record are not one step: a second call that counts in between finds the same
room. And a count discards what is too old for its own clock, which may be later than that of
a call still waiting to count.
-/

namespace KeyCollective.Sybil

open Quota (UserTier)

inductive Stage where
  | waiting
  | counted (count : Nat)
  | finished (tier : UserTier)
deriving DecidableEq

structure Call where
  assessment : Assessment
  nowMs : Int
  stage : Stage

structure Shared where
  clock : Int
  tracker : InMemorySubnetTracker

abbrev World := Interleaving.System Shared Call

/-- No call has started. -/
def World.start (clock : Int) : World := ⟨⟨clock, .empty⟩, []⟩

inductive Step where
  | start (assessment : Assessment) (nowMs : Int)
  | resume (call : Nat)

/-- At least thirty days lie between the calls. -/
def Apart (a b : Call) : Prop :=
  a.nowMs + subnetVelocityWindowMs ≤ b.nowMs ∨ b.nowMs + subnetVelocityWindowMs ≤ a.nowMs

instance (a b : Call) : Decidable (Apart a b) := inferInstanceAs (Decidable (_ ∨ _))

theorem Apart.symm {a b : Call} (apart : Apart a b) : Apart b a := Or.symm apart

section Runs

variable [Host] [NumberReader] [NumberText] [DateParser]

namespace Call

def subnet (call : Call) : String := call.assessment.subnet

/-- The tier a call has been or will be graded with, once it has its count. -/
def tier (call : Call) : Option UserTier :=
  match call.stage with
  | .waiting => none
  | .counted count => some (call.assessment.conclude call.nowMs count).1
  | .finished tier => some tier

/-- To the next point where the call waits. -/
def advance (shared : Shared) (call : Call) : Shared × Call :=
  match call.stage with
  | .waiting =>
    let (count, tracker) := shared.tracker.getSubnetRegistrationCount call.subnet
      subnetVelocityWindowMs call.nowMs
    ({ shared with tracker }, { call with stage := .counted count })
  | .counted count =>
    let (tier, records) := call.assessment.conclude call.nowMs count
    ({ shared with tracker :=
        if records then shared.tracker.recordRegistration call.subnet call.nowMs
        else shared.tracker },
      { call with stage := .finished tier })
  | .finished _ => (shared, call)

end Call

def step (world : World) : Step → World
  | .start assessment nowMs =>
    ⟨{ world.shared with clock := nowMs }, world.processes ++ [⟨assessment, nowMs, .waiting⟩]⟩
  | .resume i => Interleaving.step Call.advance world i

/-- The clock does not run backwards, and every assessment records on pass. -/
def Permitted (world : World) : Step → Prop
  | .start assessment nowMs => world.shared.clock ≤ nowMs ∧ assessment.RecordsOnPass
  | .resume _ => True

/-- A call takes its count when no other of its subnet has found room in these thirty days and
is still to record, and discards no registration that is not too old for a call still waiting. -/
def CountsAlone (world : World) (call : Call) : Prop :=
  ∀ other ∈ world.processes, other.subnet = call.subnet →
    match other.stage with
    | .waiting => ∀ t ∈ world.shared.tracker.timestampsOf call.subnet,
        other.nowMs - subnetVelocityWindowMs < t → call.nowMs - subnetVelocityWindowMs < t
    | .counted count => count < maxRegistrationsPerSubnet → Apart other call
    | .finished _ => True

def Undisturbed (world : World) : Step → Prop
  | .start _ _ => True
  | .resume i => ∀ call ∈ world.processes[i]?, call.stage = .waiting → CountsAlone world call

instance (world : World) (call : Call) : Decidable (CountsAlone world call) :=
  have (other : Call) : Decidable (match other.stage with
      | .waiting => ∀ t ∈ world.shared.tracker.timestampsOf call.subnet,
          other.nowMs - subnetVelocityWindowMs < t → call.nowMs - subnetVelocityWindowMs < t
      | .counted count => count < maxRegistrationsPerSubnet → Apart other call
      | .finished _ => True) := by
    cases other.stage <;> infer_instance
  inferInstanceAs (Decidable (∀ other ∈ world.processes, other.subnet = call.subnet → _))

instance (world : World) : DecidablePred (Permitted world)
  | .start _ _ => inferInstanceAs (Decidable (_ ∧ _))
  | .resume _ => inferInstanceAs (Decidable True)

instance (world : World) : DecidablePred (Undisturbed world)
  | .start _ _ => inferInstanceAs (Decidable True)
  | .resume _ => inferInstanceAs (Decidable (∀ call ∈ _, _ → _))

/-! ## What a step does -/

variable {world : World} {shared : Shared} {call other : Call} {count : Nat}

theorem advance_waiting (waiting : call.stage = .waiting) :
    call.advance shared =
      ({ shared with tracker := (shared.tracker.getSubnetRegistrationCount call.subnet
          subnetVelocityWindowMs call.nowMs).2 },
        { call with stage := .counted (shared.tracker.getSubnetRegistrationCount call.subnet
          subnetVelocityWindowMs call.nowMs).1 }) := by
  rw [Call.advance, waiting]

theorem advance_counted (counted : call.stage = .counted count) :
    call.advance shared =
      ({ shared with tracker :=
          if (call.assessment.conclude call.nowMs count).2 then
            shared.tracker.recordRegistration call.subnet call.nowMs
          else shared.tracker },
        { call with stage := .finished (call.assessment.conclude call.nowMs count).1 }) := by
  rw [Call.advance, counted]

theorem advance_finished {tier : UserTier} (finished : call.stage = .finished tier) :
    call.advance shared = (shared, call) := by
  rw [Call.advance, finished]

@[simp] theorem advance_clock : (call.advance shared).1.clock = shared.clock := by
  unfold Call.advance
  split <;> rfl

@[simp] theorem advance_nowMs : (call.advance shared).2.nowMs = call.nowMs := by
  unfold Call.advance
  split <;> rfl

@[simp] theorem advance_assessment : (call.advance shared).2.assessment = call.assessment := by
  unfold Call.advance
  split <;> rfl

@[simp] theorem advance_subnet : (call.advance shared).2.subnet = call.subnet := by
  rw [Call.subnet, advance_assessment, Call.subnet]

/-! ## The invariant -/

/-- The tracker has every builder of the subnet in the thirty days before `now`. -/
def Remembers (world : World) (now : Int) (subnet : String) : Prop :=
  ∀ call ∈ world.processes, call.stage = .finished .builder → call.subnet = subnet →
    now - subnetVelocityWindowMs < call.nowMs →
    call.nowMs ∈ world.shared.tracker.timestampsOf subnet

/-- Two builders of a subnet are apart, be their tiers given or still to be. -/
def Exclusive (a b : Call) : Prop :=
  a.tier = some .builder → b.tier = some .builder → a.subnet = b.subnet → Apart a b

structure Invariant (world : World) : Prop where
  past : ∀ call ∈ world.processes,
    call.nowMs ≤ world.shared.clock ∧ call.assessment.RecordsOnPass
  recent : ∀ subnet, Remembers world world.shared.clock subnet
  remembered : ∀ call ∈ world.processes, call.stage = .waiting →
    Remembers world call.nowMs call.subnet
  exclusive : world.processes.Pairwise Exclusive

variable {now now' : Int} {subnet : String} {i : Nat}

omit [Host] [DateParser] in
theorem Remembers.mono (remembers : Remembers world now subnet) (le : now ≤ now') :
    Remembers world now' subnet := by
  intro call mem builder same recent
  exact remembers call mem builder same (by omega)

theorem Remembers.afterStart (remembers : Remembers world now subnet) (assessment : Assessment)
    (nowMs : Int) : Remembers (step world (.start assessment nowMs)) now subnet := by
  intro call mem builder same recent
  rcases List.mem_append.mp mem with old | new
  · exact remembers call old builder same recent
  · rw [List.mem_singleton.mp new] at builder
    cases builder

/-- A count forgets nothing that is too old for its own clock only. -/
theorem Remembers.afterCount (remembers : Remembers world now subnet)
    (present : world.processes[i]? = some call) (waiting : call.stage = .waiting)
    (spares : subnet = call.subnet → ∀ t ∈ world.shared.tracker.timestampsOf call.subnet,
      now - subnetVelocityWindowMs < t → call.nowMs - subnetVelocityWindowMs < t) :
    Remembers (step world (.resume i)) now subnet := by
  rw [step, Interleaving.step_some present, advance_waiting waiting]
  intro other mem builder same recent
  rcases List.mem_or_eq_of_mem_set mem with old | rfl
  · have kept := remembers other old builder same recent
    rw [InMemorySubnetTracker.timestampsOf_count]
    split
    case isTrue here =>
      rw [here] at kept
      exact List.mem_filter.mpr ⟨kept, decide_eq_true (spares here _ kept recent)⟩
    case isFalse => exact kept
  · cases builder

/-- A record adds, and a builder is recorded. -/
theorem Remembers.afterRecord (remembers : Remembers world now subnet)
    (present : world.processes[i]? = some call) (counted : call.stage = .counted count)
    (onPass : call.assessment.RecordsOnPass) :
    Remembers (step world (.resume i)) now subnet := by
  rw [step, Interleaving.step_some present, advance_counted counted]
  intro other mem builder same recent
  have grows : ∀ t ∈ world.shared.tracker.timestampsOf subnet,
      t ∈ (if (call.assessment.conclude call.nowMs count).2 then
        world.shared.tracker.recordRegistration call.subnet call.nowMs
        else world.shared.tracker).timestampsOf subnet := by
    intro t kept
    split
    · rw [InMemorySubnetTracker.timestampsOf_record]
      exact List.mem_append_left _ kept
    · exact kept
  rcases List.mem_or_eq_of_mem_set mem with old | rfl
  · exact grows _ (remembers other old builder same recent)
  · have granted : (call.assessment.conclude call.nowMs count).1 = .builder := by
      injection builder
    have here : subnet = call.subnet := same.symm
    simp only [Assessment.records_of_builder onPass granted, if_true,
      InMemorySubnetTracker.timestampsOf_record, if_pos here]
    exact List.mem_append_right _ (List.mem_singleton.mpr rfl)

omit [Host] [DateParser] in
/-- Where a count finds room, no builder of the subnet is near. -/
theorem apart_of_room (remembers : Remembers world call.nowMs call.subnet)
    (mem : other ∈ world.processes) (builder : other.stage = .finished .builder)
    (same : other.subnet = call.subnet)
    (room : (world.shared.tracker.getSubnetRegistrationCount call.subnet subnetVelocityWindowMs
      call.nowMs).1 < maxRegistrationsPerSubnet) :
    Apart other call := by
  by_contra near
  have recent : call.nowMs - subnetVelocityWindowMs < other.nowMs := by
    unfold Apart at near
    omega
  have active : other.nowMs ∈ InMemorySubnetTracker.active subnetVelocityWindowMs call.nowMs
      (world.shared.tracker.timestampsOf call.subnet) :=
    List.mem_filter.mpr ⟨remembers other mem builder same recent, decide_eq_true recent⟩
  have some := List.length_pos_of_mem active
  rw [InMemorySubnetTracker.count_eq] at room
  exact absurd some (Nat.not_lt.mpr (Nat.lt_one_iff.mp room).le)

/-- The tier a call will have does not change when it is given. -/
theorem advance_tier (decided : call.stage ≠ .waiting) :
    (call.advance shared).2.tier = call.tier := by
  cases stage : call.stage with
  | waiting => exact absurd stage decided
  | counted count => rw [advance_counted stage, Call.tier, Call.tier, stage]
  | finished tier => rw [advance_finished stage]

theorem exclusive_resume (invariant : Invariant world)
    (undisturbed : Undisturbed world (.resume i)) :
    (step world (.resume i)).processes.Pairwise Exclusive := by
  have symmetric : ∀ a b, Exclusive a b → Exclusive b a :=
    fun a b exclusive first second same => (exclusive second first same.symm).symm
  refine Interleaving.pairwise_step symmetric invariant.exclusive ?_
  intro call present j other _ otherPresent exclusive builder otherBuilder same
  have mem := List.mem_of_getElem? present
  have otherMem := List.mem_of_getElem? otherPresent
  rw [advance_subnet] at same
  rw [Apart, advance_nowMs]
  by_cases waiting : call.stage = .waiting
  · have alone := undisturbed call present waiting other otherMem same.symm
    have room : (world.shared.tracker.getSubnetRegistrationCount call.subnet
        subnetVelocityWindowMs call.nowMs).1 < maxRegistrationsPerSubnet := by
      rw [advance_waiting waiting] at builder
      exact Assessment.room_of_builder (Option.some.inj builder)
    -- The other call has been given its tier, will be given it, or has no tier.
    cases stage : other.stage with
    | waiting =>
      rw [Call.tier, stage] at otherBuilder
      cases otherBuilder
    | counted count =>
      rw [stage] at alone
      rw [Call.tier, stage] at otherBuilder
      exact (alone (Assessment.room_of_builder (Option.some.inj otherBuilder))).symm
    | finished tier =>
      have granted : other.stage = .finished .builder := by
        rw [Call.tier, stage] at otherBuilder
        rw [stage, Option.some.inj otherBuilder]
      exact (apart_of_room (invariant.remembered call mem waiting) otherMem granted same.symm
        room).symm
  · rw [advance_tier waiting] at builder
    exact exclusive builder otherBuilder same

theorem Invariant.afterStart (invariant : Invariant world) (assessment : Assessment) {nowMs : Int}
    (le : world.shared.clock ≤ nowMs) (onPass : assessment.RecordsOnPass) :
    Invariant (step world (.start assessment nowMs)) where
  past call mem := by
    rcases List.mem_append.mp mem with old | new
    · exact ⟨(invariant.past call old).1.trans le, (invariant.past call old).2⟩
    · rw [List.mem_singleton.mp new]
      exact ⟨le_rfl, onPass⟩
  recent subnet := ((invariant.recent subnet).mono le).afterStart assessment nowMs
  remembered call mem waiting := by
    rcases List.mem_append.mp mem with old | new
    · exact (invariant.remembered call old waiting).afterStart assessment nowMs
    · rw [List.mem_singleton.mp new]
      exact ((invariant.recent _).mono le).afterStart assessment nowMs
  exclusive := by
    refine List.pairwise_append.mpr ⟨invariant.exclusive, List.pairwise_singleton _ _, ?_⟩
    intro call _ new mem _ builder
    rw [List.mem_singleton.mp mem] at builder
    cases builder

/-- What the tracker is held to remember, it remembers when a call resumes. -/
theorem Remembers.afterResume (invariant : Invariant world) (remembers : Remembers world now subnet)
    (spares : ∀ call ∈ world.processes[i]?, call.stage = .waiting → subnet = call.subnet →
      ∀ t ∈ world.shared.tracker.timestampsOf call.subnet,
        now - subnetVelocityWindowMs < t → call.nowMs - subnetVelocityWindowMs < t) :
    Remembers (step world (.resume i)) now subnet := by
  cases present : world.processes[i]? with
  | none =>
    rw [step, Interleaving.step_none present]
    exact remembers
  | some call =>
    have mem := List.mem_of_getElem? present
    cases stage : call.stage with
    | waiting => exact remembers.afterCount present stage (spares call present stage)
    | counted count => exact remembers.afterRecord present stage (invariant.past call mem).2
    | finished tier =>
      have here : ∃ bound : i < world.processes.length, world.processes[i] = call :=
        List.getElem?_eq_some_iff.mp present
      obtain ⟨bound, rfl⟩ := here
      rw [step, Interleaving.step_some present, advance_finished stage, List.set_getElem_self]
      exact remembers

theorem resume_clock (world : World) (i : Nat) :
    (step world (.resume i)).shared.clock = world.shared.clock := by
  rw [step]
  cases present : world.processes[i]? with
  | none => rw [Interleaving.step_none present]
  | some call => rw [Interleaving.step_some present, advance_clock]

theorem Invariant.afterResume (invariant : Invariant world)
    (undisturbed : Undisturbed world (.resume i)) : Invariant (step world (.resume i)) where
  past := by
    rw [resume_clock]
    refine Interleaving.forall_step invariant.past ?_
    intro call _ past
    rw [advance_nowMs, advance_assessment]
    exact past
  recent subnet := by
    rw [resume_clock]
    refine (invariant.recent subnet).afterResume invariant ?_
    intro call present _ _ t _ recent
    have := (invariant.past call (List.mem_of_getElem? present)).1
    omega
  remembered := by
    refine Interleaving.forall_step (fun other mem waiting => ?_) ?_
    · refine (invariant.remembered other mem waiting).afterResume invariant ?_
      intro call present counts same
      have alone := undisturbed call present counts other mem same
      rw [waiting] at alone
      exact alone
    · intro call _ _ waiting
      exfalso
      revert waiting
      unfold Call.advance
      cases stage : call.stage <;> simp [stage]
  exclusive := exclusive_resume invariant undisturbed

theorem step_invariant (invariant : Invariant world) (action : Step)
    (permitted : Permitted world action) (undisturbed : Undisturbed world action) :
    Invariant (step world action) := by
  cases action with
  | start assessment nowMs => exact invariant.afterStart assessment permitted.1 permitted.2
  | resume i => exact invariant.afterResume undisturbed

theorem Invariant.start (clock : Int) :
    Invariant (.start clock) where
  past _ mem := by cases mem
  recent _ _ mem := by cases mem
  remembered _ mem := by cases mem
  exclusive := .nil

/-- **One builder per subnet**: thirty days lie between two builders of a subnet in every run in
which no count falls between another's count and record, or discards what a waiting call still
needs. -/
theorem builders_apart (clock : Int) (actions : List Step)
    (guarded : Transition.Guarded step (fun world action =>
      Permitted world action ∧ Undisturbed world action) (.start clock) actions) :
    ∀ world ∈ Transition.reached step (.start clock) actions,
      world.processes.Pairwise fun a b => a.stage = .finished .builder →
        b.stage = .finished .builder → a.subnet = b.subnet → Apart a b := by
  intro world mem
  have keep : ∀ world action, Invariant world →
      Permitted world action ∧ Undisturbed world action → Invariant (step world action) :=
    fun world action held met => step_invariant held action met.1 met.2
  have invariant := Transition.invariant_of_guarded keep (.start clock) guarded world mem
  refine invariant.exclusive.imp ?_
  intro a b exclusive first second
  have decided {call : Call} (finished : call.stage = .finished .builder) :
      call.tier = some .builder := by
    rw [Call.tier, finished]
  exact exclusive (decided first) (decided second)

end Runs

/-! ## Two calls at once -/

section Example

@[reducible] def noDates : DateParser := ⟨fun _ => none⟩

attribute [local instance] asciiHost decimalReader integerText noDates

/-- A developer both engines take for a builder. -/
def developer (clientIp : String) : Assessment :=
  .evaluateAntiSybil
    { turnstileToken := some "valid_turnstile_response", clientIp,
      githubProfile :=
        { primaryEmail := some "dev@example.com", isEmailVerified := some true,
          createdAt := some (.number (.finite 0)), publicRepos := some (.finite 3),
          contributionsCount := some (.finite 40) } }
    {}

def scoredDeveloper (clientIp : String) : Assessment :=
  .calculateSybilScore
    { email := some "dev@example.org", createdAt := some (.number (.finite 0)),
      publicRepos := some (.finite 8) }
    (some { headers := [("cf-connecting-ip", clientIp)] }) none none

/-- Both calls count before either records. -/
def racingCalls : List Step :=
  [.start (developer "203.0.113.7") 8640000000, .start (scoredDeveloper "203.0.113.9") 8640000001,
    .resume 0, .resume 1, .resume 0, .resume 1]

/-- One after the other the second call is no builder, and thirty days later it is. -/
def orderlyCalls : List Step :=
  [.start (developer "203.0.113.7") 8640000000, .resume 0, .resume 0,
    .start (scoredDeveloper "203.0.113.9") 8640000001, .resume 1, .resume 1,
    .start (scoredDeveloper "203.0.113.9") 11232000000, .resume 2, .resume 2]

/-- Two builders of a subnet a millisecond apart. -/
theorem racing_builders :
    Transition.Guarded step Permitted (.start 0) racingCalls ∧
      ¬(racingCalls.foldl step (.start 0)).processes.Pairwise fun a b =>
        a.stage = .finished .builder → b.stage = .finished .builder → a.subnet = b.subnet →
          Apart a b := by
  decide +kernel

theorem builders_apart_orderly :
    (orderlyCalls.foldl step (.start 0)).processes.Pairwise fun a b =>
      a.stage = .finished .builder → b.stage = .finished .builder → a.subnet = b.subnet →
        Apart a b :=
  builders_apart 0 orderlyCalls (by decide +kernel) _
    (Transition.foldl_mem_reached step _ orderlyCalls)

end Example

end KeyCollective.Sybil
