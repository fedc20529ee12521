import KeyCollective.Coordinator.PoolCoordinator
import KeyCollective.Lib.Transition
import KeyCollective.Url
import Mathlib.Tactic.NormNum

/-!
# The emergency brake

A brake is set under the tenant id of a report's body and asked for under the last segment of
a path, which the chat handler encodes and the coordinator does not decode.
-/

namespace KeyCollective

structure RouterError where
  message : String
  statusCode : Nat
  code : String
deriving DecidableEq

/-- What a `fetch` of the coordinator gives. `braked` is of the body. -/
structure BrakeResponse where
  status : Nat
  braked : Option Bool

def brakePath (tenantId : String) : List String :=
  urlPath ("/coordinator/brake-status/" ++ encodeURIComponent tenantId)

/-- The check before a chat request is routed. Where `fetch` throws, which is `none`, the
request goes on. -/
def checkBrake (fetch : List String → Option BrakeResponse) (tenantId : String) :
    Except RouterError Unit :=
  let active : RouterError :=
    ⟨s!"Emergency brake active for tenant '{tenantId}'", 429, "EMERGENCY_BRAKE_ACTIVE"⟩
  match fetch (brakePath tenantId) with
  | none => .ok ()
  | some response =>
    if response.status = 429 then .error active
    else if 200 ≤ response.status ∧ response.status < 300 ∧ response.braked = some true then
      .error active
    else .ok ()

namespace PoolCoordinatorDO

def getBrakeStatus (s : State) (now : Int) (path : List String) : BrakeResponse :=
  match brakeStatus s path now with
  | some braked => ⟨200, some braked⟩
  | none => ⟨404, none⟩

/-- The coordinator, the last time it was called at, and the reports that were answered with
`brakeApplied`. -/
structure Site where
  coordinator : State
  clock : Int
  triggered : List (String × Int)

inductive Event where
  | call (call : Call)
  /-- The instance is replaced by a new one. -/
  | restart

namespace Site

/-- Nothing is stored, and the clock counts from the epoch. -/
def start : Site := ⟨initStorage none, 0, []⟩

def step (site : Site) : Event → Site
  | .call (.reportVolume tenantId volume now) =>
    let (brakeApplied, coordinator) := reportVolume site.coordinator tenantId volume now
    { coordinator
      clock := now
      triggered := if brakeApplied then (tenantId, now) :: site.triggered else site.triggered }
  | .call (.alarm now) =>
    { site with coordinator := alarm site.coordinator now, clock := now }
  | .restart => { site with coordinator := initStorage site.coordinator.storedBrakes }

/-- The clock does not go back. -/
def InTime (site : Site) : Event → Prop
  | .call call => site.clock ≤ call.now
  | .restart => True

/-- The chat handler rejects a request of the tenant. -/
def rejects (site : Site) (tenantId : String) (now : Int) : Bool :=
  match checkBrake (fun path => some (getBrakeStatus site.coordinator now path)) tenantId with
  | .error _ => true
  | .ok () => false

/-- A report of the tenant triggered the brake in the last minute. -/
def BrakedLately (site : Site) (tenantId : String) (now : Int) : Prop :=
  ∃ t, (tenantId, t) ∈ site.triggered ∧ now < t + brakeMs

/-- In every state of every run the handler rejects the tenant just when it was braked lately. -/
def Honours (tenantId : String) : Prop :=
  ∀ events, Transition.Guarded step InTime start events →
    ∀ site ∈ Transition.reached step start events, ∀ now, site.clock ≤ now →
      (site.rejects tenantId now = true ↔ site.BrakedLately tenantId now)

end Site

/-! ## What is asked for -/

/-- The tenant whose brake the coordinator looks up for a tenant's request. -/
def asked (tenantId : String) : Option String := statusPath (brakePath tenantId)

/-- The id is its own path segment. -/
def PlainId (tenantId : String) : Prop :=
  (∀ c ∈ tenantId.toList, unreserved c = true) ∧ tenantId ≠ "." ∧ tenantId ≠ ".."

theorem asked_eq (tenantId : String) :
    asked tenantId =
      if encodeURIComponent tenantId = "." then some ""
      else if encodeURIComponent tenantId = ".." then none
      else some (encodeURIComponent tenantId) := by
  rw [asked, brakePath, urlPath_append (slash_not_mem_encodeURIComponent tenantId)]
  by_cases dot : encodeURIComponent tenantId = "."
  · rw [dot, if_pos rfl]
    rfl
  · by_cases dots : encodeURIComponent tenantId = ".."
    · rw [dots, if_neg (by decide), if_pos rfl]
      rfl
    · have segments : resolveDots [] ["coordinator", "brake-status", encodeURIComponent tenantId] =
          ["coordinator", "brake-status", encodeURIComponent tenantId] := by
        simp [resolveDots, dot, dots]
      rw [segments, if_neg dot, if_neg dots]
      rfl

theorem asked_iff (tenantId : String) : asked tenantId = some tenantId ↔ PlainId tenantId := by
  rw [asked_eq]
  constructor
  · intro own
    split at own
    case isTrue dot =>
      rw [← Option.some.inj own] at dot
      exact absurd dot (by decide)
    case isFalse =>
      split at own
      case isTrue => cases own
      case isFalse dot dots =>
        have same := Option.some.inj own
        exact ⟨plain_of_encodeURIComponent same, same ▸ dot, same ▸ dots⟩
  · rintro ⟨plain, dot, dots⟩
    rw [encodeURIComponent_eq_self plain, if_neg dot, if_neg dots]

namespace Site

theorem rejects_eq (site : Site) (tenantId : String) (now : Int) :
    site.rejects tenantId now =
      ((asked tenantId).map fun asked => braked site.coordinator asked now).getD false := by
  unfold rejects checkBrake getBrakeStatus brakeStatus asked
  beta_reduce
  cases statusPath (brakePath tenantId) with
  | none => simp
  | some asked => cases active : braked site.coordinator asked now <;> simp [active]

/-! ## What the events keep -/

/-- The brakes are those that the reports of the last minute triggered, and are stored. -/
structure Sound (site : Site) : Prop where
  epoch : 0 ≤ site.clock
  past : ∀ tenantId t, (tenantId, t) ∈ site.triggered → t ≤ site.clock
  brakes : ∀ tenantId now, site.clock ≤ now →
    (braked site.coordinator tenantId now = true ↔ site.BrakedLately tenantId now)
  stored : site.coordinator.storedBrakes.getD .empty = site.coordinator.activeBrakes

theorem sound_start : start.Sound where
  epoch := le_rfl
  past _ _ mem := absurd mem List.not_mem_nil
  brakes _ _ _ := by
    constructor
    · intro absent
      cases absent
    · rintro ⟨_, mem, _⟩
      exact absurd mem List.not_mem_nil
  stored := rfl

variable {site : Site}

/-- Brakes set later last longer. -/
theorem Sound.trigger (sound : site.Sound) {tenantId : String} {now : Int}
    (later : site.clock ≤ now) {next : Site} (clock : next.clock = now)
    (triggered : next.triggered = (tenantId, now) :: site.triggered)
    (brakes : next.coordinator.activeBrakes =
      site.coordinator.activeBrakes.set ⟨tenantId, now + brakeMs⟩)
    (stored : next.coordinator.storedBrakes = some next.coordinator.activeBrakes) :
    next.Sound where
  epoch := clock ▸ sound.epoch.trans later
  past other t mem := by
    rw [triggered, List.mem_cons, Prod.mk.injEq] at mem
    rw [clock]
    rcases mem with ⟨-, rfl⟩ | mem
    · exact le_rfl
    · exact (sound.past other t mem).trans later
  brakes other at_ after := by
    have epoch := sound.epoch
    rw [clock] at after
    have before := sound.brakes other at_ (later.trans after)
    unfold BrakedLately at before ⊢
    rw [triggered]
    simp only [braked, brakes, IndexedMap.get?_set] at before ⊢
    by_cases own : tenantId = other
    · subst own
      have minute : brakeMs = 60000 := rfl
      simp only [↓reduceIte, decide_eq_true_eq, List.mem_cons, Prod.mk.injEq, true_and]
      constructor
      · rintro ⟨-, soon⟩
        exact ⟨now, Or.inl rfl, soon⟩
      · rintro ⟨t, rfl | mem, soon⟩
        · exact ⟨by omega, soon⟩
        · have past := sound.past _ t mem
          exact ⟨by omega, by omega⟩
    · rw [if_neg own, before]
      simp [Ne.symm own]
  stored := by
    rw [stored]
    rfl

theorem Sound.quiet (sound : site.Sound) {now : Int} (later : site.clock ≤ now) {next : Site}
    (clock : next.clock = now) (triggered : next.triggered = site.triggered)
    (brakes : next.coordinator.activeBrakes = site.coordinator.activeBrakes)
    (stored : next.coordinator.storedBrakes = site.coordinator.storedBrakes) : next.Sound where
  epoch := clock ▸ sound.epoch.trans later
  past tenantId t mem := clock ▸ (sound.past tenantId t (triggered ▸ mem)).trans later
  brakes tenantId now after := by
    rw [BrakedLately, triggered, braked, brakes]
    exact sound.brakes tenantId now (later.trans (clock ▸ after))
  stored := by rw [brakes, stored, sound.stored]

theorem Sound.alarm (sound : site.Sound) {now : Int} (later : site.clock ≤ now) :
    (site.step (.call (.alarm now))).Sound where
  epoch := sound.epoch.trans later
  past tenantId t mem := (sound.past tenantId t mem).trans later
  brakes tenantId at_ after := by
    have before := sound.brakes tenantId at_ (later.trans after)
    change braked (PoolCoordinatorDO.alarm site.coordinator now) tenantId at_ = true ↔
      site.BrakedLately tenantId at_
    rw [← before]
    simp only [braked, PoolCoordinatorDO.alarm, IndexedMap.get?_filter]
    change now ≤ at_ at after
    cases site.coordinator.activeBrakes.get? tenantId with
    | none => rfl
    | some brake =>
      by_cases expired : brake.expiry < now
      · simp [Option.filter_some, expired]
        omega
      · simp [Option.filter_some, expired]
  stored := by
    change (if _ then some _ else site.coordinator.storedBrakes).getD .empty = _
    split
    case isTrue => rfl
    case isFalse kept =>
      rw [sound.stored]
      refine (IndexedMap.filter_eq_self fun brake mem => ?_).symm
      by_contra expired
      exact kept (List.any_eq_true.mpr ⟨brake, mem, by simpa using expired⟩)

/-- A new instance finds the brakes again. -/
theorem Sound.restart (sound : site.Sound) : (site.step .restart).Sound where
  epoch := sound.epoch
  past := sound.past
  brakes tenantId now after := by
    have before := sound.brakes tenantId now after
    change braked (initStorage site.coordinator.storedBrakes) tenantId now = true ↔
      site.BrakedLately tenantId now
    rw [← before, braked, braked, initStorage, sound.stored]
  stored := rfl

theorem Sound.step (sound : site.Sound) (event : Event) (inTime : site.InTime event) :
    (site.step event).Sound := by
  cases event with
  | restart => exact sound.restart
  | call call =>
    cases call with
    | alarm now => exact sound.alarm inTime
    | reportVolume tenantId volume now =>
      unfold Site.step reportVolume
      simp only
      split
      case isTrue => exact sound.trigger inTime rfl rfl rfl rfl
      case isFalse => exact sound.quiet inTime rfl rfl rfl rfl

/-- The only tenant that reports has all of the pool's volume. -/
theorem first_report (tenantId : String) :
    start.step (.call (.reportVolume tenantId 1 0)) =
      { coordinator :=
          { tenantVolumes := volumesAfter (initStorage none) tenantId 1 0
            activeBrakes := IndexedMap.empty.set ⟨tenantId, brakeMs⟩
            storedBrakes := some (IndexedMap.empty.set ⟨tenantId, brakeMs⟩) }
        clock := 0
        triggered := [(tenantId, 0)] } := by
  have own : (reportedVolumes start.coordinator tenantId 1 0).entries = [⟨1, 0⟩] := rfl
  have all : (volumesAfter start.coordinator tenantId 1 0).values = [⟨tenantId, [⟨1, 0⟩]⟩] := rfl
  have exceeds : (0 : Rat) < 1 ∧ 35 / 100 * (1 : Rat) < 1 := by norm_num
  simp only [step, reportVolume, own, all, totalVolume, List.map_cons, List.map_nil, List.sum_cons,
    List.sum_nil, add_zero, exceeds, and_self, ↓reduceIte]
  rfl

/-- The handler and the coordinator agree on the brakes of a tenant, in every run, exactly when
its id is its own path segment. -/
theorem brake_protocol_iff (tenantId : String) : Honours tenantId ↔ PlainId tenantId := by
  rw [← asked_iff]
  constructor
  · intro honours
    by_contra other
    -- The first report of a run is braked under its own id, and that is not asked for.
    have first := honours [.call (.reportVolume tenantId 1 0)] ⟨le_rfl, trivial⟩
      (start.step (.call (.reportVolume tenantId 1 0)))
      (List.mem_cons_of_mem _ (List.mem_singleton.mpr rfl)) 0 le_rfl
    rw [first_report] at first
    have rejected := first.mpr ⟨0, List.mem_singleton.mpr rfl, by decide⟩
    rw [rejects_eq] at rejected
    cases asks : asked tenantId with
    | none =>
      rw [asks] at rejected
      cases rejected
    | some id =>
      have differs : tenantId ≠ id := fun same => other (asks.trans (congrArg some same.symm))
      rw [asks, Option.map_some, Option.getD_some, braked, IndexedMap.get?_set,
        if_neg differs] at rejected
      cases rejected
  · intro own events inTime site mem now after
    have sound := Transition.invariant_of_guarded (fun _ event sound => sound.step event)
      sound_start inTime site mem
    rw [rejects_eq, own]
    exact sound.brakes tenantId now after

/-- The requests of a tenant with a colon in its id are not rejected while it is braked. -/
theorem brake_missed :
    (start.step (.call (.reportVolume "github:1" 1 0))).BrakedLately "github:1" 0 ∧
      (start.step (.call (.reportVolume "github:1" 1 0))).rejects "github:1" 0 = false := by
  rw [first_report]
  constructor
  · exact ⟨0, List.mem_singleton.mpr rfl, by decide⟩
  · rw [rejects_eq]
    decide

end Site

end PoolCoordinatorDO

end KeyCollective
