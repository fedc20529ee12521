import KeyCollective.Limiter.Eviction
import KeyCollective.Quota.Admission
import KeyCollective.Quota.Storage

/-!
# Evicted quota objects

Every change of a tenant's object is persisted before the call returns. What an instance
holds, loaded and pruned, is what a new instance would load from storage.
-/

namespace KeyCollective.Quota.TenantQuotaDO

/-- The instance loses what it holds in memory. -/
def Op.drops : Op → Bool
  | .clearMemoryCache | .restart => true
  | _ => false

variable (q : TenantQuotaDO)

theorem pruneEntries_later (s : State) {now next : Int} (le : now ≤ next) :
    q.pruneEntries (q.pruneEntries s now) next = q.pruneEntries s next := by
  simp only [pruneEntries, List.filter_filter]
  congr 1
  apply List.filter_congr
  intro e _
  rw [← Bool.decide_and, decide_eq_decide]
  omega

/-- It does not matter how long before the evaluation the object was loaded. -/
theorem prepared_loadedAt (s : State) {loadedAt now : Int} (le : loadedAt ≤ now) :
    q.prepared s loadedAt now = q.prepared s now now := by
  unfold prepared ensureLoaded
  cases s.isLoaded with
  | true => rfl
  | false =>
    have early := q.pruneEntries_later (readStorage s) le
    have late := q.pruneEntries_later (readStorage s) (Int.le_refl now)
    simp only [pruneEntries, State.mk.injEq] at early late
    simp only [Bool.false_eq_true, ↓reduceIte, pruneEntries, early, late]

theorem prepared_later (s : State) {now next : Int} (le : now ≤ next) :
    q.pruneEntries (q.prepared s now now) next = q.prepared s next next := by
  rw [prepared, q.pruneEntries_later _ le]
  exact q.prepared_loadedAt s le

theorem ensureLoaded_isLoaded (s : State) (now : Int) : (q.ensureLoaded s now).isLoaded = true := by
  unfold ensureLoaded
  split
  · assumption
  · rfl

theorem prepared_of_loaded {s : State} (loaded : s.isLoaded = true) (loadedAt now : Int) :
    q.prepared s loadedAt now = q.pruneEntries s now := by
  rw [prepared, ensureLoaded, if_pos loaded]

/-- What the instance holds is what a new one would load, at or after the clock. -/
structure Durable (clock : Int) (s : State) : Prop where
  tenant : s.tenantId = q.tenantId
  named : ∀ data, s.storage = some data → data.tenantId = q.tenantId
  complete : ∀ data, s.storage = some data →
    data.communityDebtMicroCu.isSome ∧ data.dailyContributedCu.isSome ∧
    data.trustedContributor.isSome ∧ data.consecutiveDebtFreeDays.isSome ∧
    data.multiplierCeiling.isSome
  unstored : s.storage = none →
    s.tier = q.initialTier ∧ s.debt = (q.instantiate none).debt
  reloads : q.prepared s clock clock = q.prepared (q.instantiate s.storage) clock clock

variable {q} {clock now : Int} {s t : State}

theorem Durable.later (durable : q.Durable clock s) (le : clock ≤ now) : q.Durable now s where
  tenant := durable.tenant
  named := durable.named
  complete := durable.complete
  unstored := durable.unstored
  reloads := by
    rw [← q.prepared_later s le, durable.reloads, q.prepared_later _ le]

theorem durable_start (clock : Int) : q.Durable clock (q.instantiate none) where
  tenant := rfl
  named _ stored := by cases stored
  complete _ stored := by cases stored
  unstored _ := ⟨rfl, rfl⟩
  reloads := rfl

theorem Durable.restart (durable : q.Durable clock s) :
    q.Durable clock (q.instantiate s.storage) where
  tenant := rfl
  named := durable.named
  complete := durable.complete
  unstored _ := ⟨rfl, rfl⟩
  reloads := rfl

/-- A complete record overwrites whatever is left in memory. -/
theorem Durable.readStorage_clear (durable : q.Durable clock s) :
    readStorage (clearMemoryCache s) = readStorage (q.instantiate s.storage) := by
  cases stored : s.storage with
  | none =>
    obtain ⟨tier, debt⟩ := durable.unstored stored
    simp [readStorage, clearMemoryCache, instantiate, stored, tier, debt, durable.tenant]
  | some data =>
    obtain ⟨debt, contributed, trusted, days, ceiling⟩ := durable.complete data stored
    simp only [Option.isSome_iff_exists] at debt contributed trusted days ceiling
    obtain ⟨_, debt⟩ := debt
    obtain ⟨_, contributed⟩ := contributed
    obtain ⟨_, trusted⟩ := trusted
    obtain ⟨_, days⟩ := days
    obtain ⟨_, ceiling⟩ := ceiling
    simp only [readStorage, clearMemoryCache, instantiate, stored, restore, durable.tenant, debt,
      contributed, trusted, days, ceiling, Option.getD_some]

theorem Durable.clearMemoryCache (durable : q.Durable clock s) :
    q.Durable clock (clearMemoryCache s) where
  tenant := durable.tenant
  named := durable.named
  complete := durable.complete
  unstored := durable.unstored
  reloads := by
    have read := durable.readStorage_clear
    have unloaded : (TenantQuotaDO.clearMemoryCache s).isLoaded = false := rfl
    have new : (q.instantiate s.storage).isLoaded = false := rfl
    have storage : (TenantQuotaDO.clearMemoryCache s).storage = s.storage := rfl
    rw [storage]
    simp only [prepared, ensureLoaded, unloaded, new, Bool.false_eq_true, ↓reduceIte, read]

theorem Durable.prepared_tenantId (durable : q.Durable clock s) :
    (q.prepared s clock clock).tenantId = q.tenantId := by
  rw [durable.reloads]
  cases stored : s.storage with
  | none => rfl
  | some data =>
    have named := durable.named data stored
    simp [prepared, pruneEntries, ensureLoaded, readStorage, instantiate, restore, named]

theorem Durable.prepared_unstored (durable : q.Durable clock s) (unstored : s.storage = none) :
    (q.prepared s clock clock).tier = q.initialTier ∧
      (q.prepared s clock clock).debt = (q.instantiate none).debt := by
  rw [durable.reloads, unstored]
  exact ⟨rfl, rfl⟩

/-- A loaded instance over the same storage, holding the same. -/
theorem Durable.of_loaded (durable : q.Durable clock s) (loaded : t.isLoaded = true)
    (storage : t.storage = s.storage)
    (same : q.pruneEntries t clock = q.prepared s clock clock) : q.Durable clock t where
  tenant := by
    have tenant : (q.pruneEntries t clock).tenantId = t.tenantId := rfl
    rw [← tenant, same, durable.prepared_tenantId]
  named data stored := durable.named data (storage ▸ stored)
  complete data stored := durable.complete data (storage ▸ stored)
  unstored stored := by
    have unstored := durable.prepared_unstored (storage ▸ stored)
    rw [← same] at unstored
    exact unstored
  reloads := by rw [q.prepared_of_loaded loaded, same, storage, durable.reloads]

theorem Durable.ensureLoaded (durable : q.Durable clock s) :
    q.Durable clock (q.ensureLoaded s clock) :=
  durable.of_loaded (q.ensureLoaded_isLoaded s clock) (q.ensureLoaded_storage s clock) rfl

theorem Durable.prepared (durable : q.Durable clock s) :
    q.Durable clock (q.prepared s clock clock) := by
  refine durable.of_loaded ?_ (q.prepared_storage s clock clock) ?_
  · exact q.ensureLoaded_isLoaded s clock
  · exact q.pruneEntries_later _ (Int.le_refl clock)

/-- A persisted instance agrees with what it persisted. -/
theorem durable_persist (loaded : s.isLoaded = true) (tenant : s.tenantId = q.tenantId)
    (now : Int) : q.Durable now (q.persist s now) where
  tenant := tenant
  named data stored := by
    obtain rfl := Option.some.inj stored
    exact tenant
  complete data stored := by
    obtain rfl := Option.some.inj stored
    exact ⟨rfl, rfl, rfl, rfl, rfl⟩
  unstored stored := by cases stored
  reloads := by
    have kept : (q.persist s now).isLoaded = true := loaded
    have once := q.pruneEntries_later s (Int.le_refl now)
    simp only [pruneEntries, State.mk.injEq] at once
    rw [q.prepared_of_loaded kept]
    simp only [persist, pruneEntries, TenantQuotaDO.prepared, TenantQuotaDO.ensureLoaded,
      readStorage, instantiate, restore, tenant, loaded, once, Bool.false_eq_true, ↓reduceIte,
      Option.getD_some, ite_self]

/-! ## The same call on two instances -/

theorem persist_pruneEntries (q : TenantQuotaDO) (s : State) (now : Int) :
    q.persist (q.pruneEntries s now) now = q.persist s now := by
  unfold persist
  rw [q.pruneEntries_later s (Int.le_refl now)]

theorem withDebt_eq (q : TenantQuotaDO) (update : DebtState → DebtState) (s : State)
    (loadedAt persistedAt : Int) :
    q.withDebt update s loadedAt persistedAt =
      q.persist { q.prepared s loadedAt persistedAt with
        debt := update (q.prepared s loadedAt persistedAt).debt } persistedAt := by
  unfold withDebt
  rw [← q.persist_pruneEntries]
  rfl

theorem setTier_eq (q : TenantQuotaDO) (s : State) (tier : UserTier)
    (loadedAt persistedAt : Int) :
    q.setTier s tier loadedAt persistedAt =
      q.persist { q.prepared s loadedAt persistedAt with tier } persistedAt := by
  unfold setTier
  rw [← q.persist_pruneEntries]
  rfl

/-- An instance that was dropped now and then beside one that was kept. -/
structure Alike (q : TenantQuotaDO) (clock : Int) (evicted kept : State) : Prop where
  durable : q.Durable clock evicted
  durable_kept : q.Durable clock kept
  storage : evicted.storage = kept.storage
  loaded : evicted.isLoaded = true → kept.isLoaded = true

variable {evicted kept : State}

theorem Alike.later (alike : q.Alike clock evicted kept) (le : clock ≤ now) :
    q.Alike now evicted kept :=
  ⟨alike.durable.later le, alike.durable_kept.later le, alike.storage, alike.loaded⟩

theorem Alike.of_durable (durable : q.Durable clock s) : q.Alike clock s s :=
  ⟨durable, durable, rfl, id⟩

/-- Two loaded instances hold the same debt. -/
theorem Alike.debt_eq (alike : q.Alike clock evicted kept) (loaded : evicted.isLoaded = true) :
    evicted.debt = kept.debt := by
  have left := congrArg State.debt alike.durable.reloads
  have right := congrArg State.debt alike.durable_kept.reloads
  rw [q.prepared_of_loaded loaded] at left
  rw [q.prepared_of_loaded (alike.loaded loaded), ← alike.storage] at right
  exact left.trans right.symm

theorem Alike.prepared_eq (alike : q.Alike clock evicted kept) {loadedAt : Int}
    (le : clock ≤ loadedAt) (le' : loadedAt ≤ now) :
    q.prepared evicted loadedAt now = q.prepared kept loadedAt now := by
  have later := alike.later (Int.le_trans le le')
  rw [q.prepared_loadedAt _ le', q.prepared_loadedAt _ le', later.durable.reloads,
    later.durable_kept.reloads, later.storage]

/-- The state a call evaluates in is durable, and carries the object's own tenant. -/
theorem Alike.prepared (alike : q.Alike clock evicted kept) {loadedAt : Int}
    (le : clock ≤ loadedAt) (le' : loadedAt ≤ now) :
    q.Durable now (q.prepared evicted loadedAt now) := by
  rw [q.prepared_loadedAt _ le']
  exact (alike.durable.later (Int.le_trans le le')).prepared

theorem Alike.withDebt (alike : q.Alike clock evicted kept) (update : DebtState → DebtState)
    {loadedAt persistedAt : Int} (le : clock ≤ loadedAt) (le' : loadedAt ≤ persistedAt) :
    q.withDebt update evicted loadedAt persistedAt = q.withDebt update kept loadedAt persistedAt ∧
      q.Durable persistedAt (q.withDebt update kept loadedAt persistedAt) := by
  have durable := alike.prepared le le'
  rw [alike.prepared_eq le le'] at durable
  refine ⟨?_, ?_⟩
  · rw [withDebt_eq, withDebt_eq, alike.prepared_eq le le']
  · rw [withDebt_eq]
    apply durable_persist
    · exact q.ensureLoaded_isLoaded kept loadedAt
    · exact durable.tenant

theorem Alike.setTier (alike : q.Alike clock evicted kept) (tier : UserTier)
    {loadedAt persistedAt : Int} (le : clock ≤ loadedAt) (le' : loadedAt ≤ persistedAt) :
    q.setTier evicted tier loadedAt persistedAt = q.setTier kept tier loadedAt persistedAt ∧
      q.Durable persistedAt (q.setTier kept tier loadedAt persistedAt) := by
  have durable := alike.prepared le le'
  rw [alike.prepared_eq le le'] at durable
  refine ⟨?_, ?_⟩
  · rw [setTier_eq, setTier_eq, alike.prepared_eq le le']
  · rw [setTier_eq]
    apply durable_persist
    · exact q.ensureLoaded_isLoaded kept loadedAt
    · exact durable.tenant

/-- Both answer a request alike. Unless they refuse its tenant, they end up the same. -/
theorem Alike.consumeQuota (alike : q.Alike clock evicted kept) (request : ConsumeQuotaRequest)
    {loadedAt persistedAt : Int} (le : clock ≤ loadedAt) (le' : loadedAt ≤ now)
    (le'' : now ≤ persistedAt) :
    (q.consumeQuota evicted request loadedAt now persistedAt).1 =
        (q.consumeQuota kept request loadedAt now persistedAt).1 ∧
      ((∃ error, q.consumeQuota evicted request loadedAt now persistedAt = (.error error, evicted) ∧
          q.consumeQuota kept request loadedAt now persistedAt = (.error error, kept)) ∨
        (q.consumeQuota evicted request loadedAt now persistedAt).2 =
            (q.consumeQuota kept request loadedAt now persistedAt).2 ∧
          q.Durable persistedAt (q.consumeQuota kept request loadedAt now persistedAt).2) := by
  have tenant : evicted.tenantId = kept.tenantId :=
    alike.durable.tenant.trans alike.durable_kept.tenant.symm
  have assert : assertTenant evicted request.tenantId = assertTenant kept request.tenantId := by
    simp only [assertTenant, tenant]
  have same := alike.prepared_eq le le'
  have durable := alike.prepared le le'
  rw [same] at durable
  have loaded : (q.prepared kept loadedAt now).isLoaded = true :=
    q.ensureLoaded_isLoaded kept loadedAt
  simp only [TenantQuotaDO.prepared] at same durable loaded
  unfold TenantQuotaDO.consumeQuota
  rw [assert]
  cases assertTenant kept request.tenantId with
  | error error => exact ⟨rfl, Or.inl ⟨error, rfl, rfl⟩⟩
  | ok =>
    simp only [same]
    refine ⟨trivial, Or.inr ⟨trivial, ?_⟩⟩
    split
    · apply durable_persist
      · exact loaded
      · exact durable.tenant
    · exact durable.later le''

/-! ## Two runs -/

/-- The two instances of a run with drops and of one without. -/
def RunsAlike (q : TenantQuotaDO) (evicted kept : Run) : Prop :=
  q.Alike evicted.clock evicted.state kept.state

variable {dropped whole : Run}

theorem RunsAlike.drop (alike : q.RunsAlike dropped whole) {op : Op} (drops : op.drops = true) :
    q.RunsAlike (q.step dropped op) whole := by
  cases op with
  | clearMemoryCache =>
    exact ⟨alike.durable.clearMemoryCache, alike.durable_kept, alike.storage,
      fun loaded => by cases loaded⟩
  | restart =>
    exact ⟨alike.durable.restart, alike.durable_kept, alike.storage, fun loaded => by cases loaded⟩
  | consumeQuota => cases drops
  | accrueDebt => cases drops
  | decrementDebt => cases drops
  | alarm => cases drops
  | setTier => cases drops
  | read => cases drops

/-- An operation that does not drop the instance keeps two runs alike. One that has loaded
leaves the same debt. -/
theorem RunsAlike.step (alike : q.RunsAlike dropped whole) {op : Op} (kept : op.drops = false)
    (ordered : Ordered dropped op) :
    q.RunsAlike (q.step dropped op) (q.step whole op) ∧
      ((q.step dropped op).state.isLoaded = true →
        getDebtState (q.step dropped op).state = getDebtState (q.step whole op).state) := by
  have equal : ∀ {clock : Int} {s t : State} {history history' : List QuotaEntry}, s = t →
      q.Durable clock t → q.RunsAlike ⟨s, clock, history⟩ ⟨t, clock, history'⟩ ∧
        (s.isLoaded = true → getDebtState s = getDebtState t) := by
    rintro clock s t history history' rfl durable
    exact ⟨.of_durable durable, fun _ => rfl⟩
  cases op with
  | consumeQuota request loadedAt now persistedAt =>
    obtain ⟨le, le', le''⟩ := ordered
    obtain ⟨-, refused | ⟨same, durable⟩⟩ := Alike.consumeQuota alike request le le' le''
    · obtain ⟨error, left, right⟩ := refused
      simp only [TenantQuotaDO.step, left, right]
      refine ⟨Alike.later alike (Int.le_trans le (Int.le_trans le' le'')), fun loaded => ?_⟩
      simp only [getDebtState, Alike.debt_eq alike loaded]
    · exact equal same durable
  | accrueDebt cuWeight loadedAt persistedAt =>
    obtain ⟨same, durable⟩ := Alike.withDebt alike (·.accrue cuWeight) ordered.1 ordered.2
    exact equal same durable
  | decrementDebt cuWeight loadedAt persistedAt =>
    obtain ⟨same, durable⟩ := Alike.withDebt alike (·.decrement cuWeight) ordered.1 ordered.2
    exact equal same durable
  | alarm loadedAt persistedAt =>
    obtain ⟨same, durable⟩ := Alike.withDebt alike (·.processDailyDebtReset) ordered.1 ordered.2
    exact equal same durable
  | setTier tier loadedAt persistedAt =>
    obtain ⟨same, durable⟩ := Alike.setTier alike tier ordered.1 ordered.2
    exact equal same durable
  | read now =>
    have later := Alike.later alike ordered
    refine ⟨⟨later.durable.ensureLoaded, later.durable_kept.ensureLoaded, ?_,
      fun _ => q.ensureLoaded_isLoaded _ _⟩, fun _ => ?_⟩
    · exact (q.ensureLoaded_storage _ _).trans
        (later.storage.trans (q.ensureLoaded_storage _ _).symm)
    · have same := later.prepared_eq (Int.le_refl now) (Int.le_refl now)
      have debt := congrArg getDebtState same
      exact debt
  | clearMemoryCache => cases kept
  | restart => cases kept

theorem runs_alike (q : TenantQuotaDO) (clock : Int) (ops : List Op)
    (ordered : Transition.Guarded q.step Ordered (q.start clock) ops) :
    q.RunsAlike (ops.foldl q.step (q.start clock))
      ((ops.filter fun op => !op.drops).foldl q.step (q.start clock)) := by
  refine Transition.foldl_filter_related (R := q.RunsAlike) Op.drops ?_ ?_
    (.of_durable (durable_start clock)) ordered
  · intro dropped whole op drops alike _
    exact alike.drop drops
  · intro dropped whole op kept alike ordered
    exact (alike.step kept ordered).1

/-- Dropping what a limiter or a tenant's object holds in memory, at any points of a run,
changes no later answer of a check or a request, nor the debt found after an operation that
has loaded. What the object reads back from storage is the record it wrote. -/
theorem drops_transparent (r : RateLimiter) (q : TenantQuotaDO) :
    (∀ clock calls,
      Transition.Guarded r.callStep RateLimiter.OrderedCall (.empty, clock) calls →
      let evicted := calls.foldl r.callStep (.empty, clock)
      let kept := (calls.filter (·.1 ≠ .clearMemoryCache)).foldl r.callStep (.empty, clock)
      ∀ keyId cost now, evicted.2 ≤ now →
        (r.checkLimitDetailed evicted.1 keyId cost now).1 =
          (r.checkLimitDetailed kept.1 keyId cost now).1) ∧
    (∀ clock ops, Transition.Guarded q.step Ordered (q.start clock) ops →
      let evicted := ops.foldl q.step (q.start clock)
      let kept := (ops.filter (!·.drops)).foldl q.step (q.start clock)
      (∀ request loadedAt now persistedAt,
        Ordered evicted (.consumeQuota request loadedAt now persistedAt) →
        (q.consumeQuota evicted.state request loadedAt now persistedAt).1 =
          (q.consumeQuota kept.state request loadedAt now persistedAt).1) ∧
      (∀ op, op.drops = false → Ordered evicted op →
        (q.step evicted op).state.isLoaded = true →
        getDebtState (q.step evicted op).state = getDebtState (q.step kept op).state)) ∧
    ∀ data, TenantQuotaData.deserialize (TenantQuotaData.serialize data) = some data := by
  refine ⟨?_, ?_, TenantQuotaData.deserialize_serialize⟩
  · intro clock calls ordered evicted kept keyId cost now le
    exact RateLimiter.check_after_evictions (fun _ => none) clock calls ordered le cost
  · intro clock ops ordered evicted kept
    have alike := runs_alike q clock ops ordered
    constructor
    · intro request loadedAt now persistedAt times
      exact (Alike.consumeQuota alike request times.1 times.2.1 times.2.2).1
    · intro op undropped times loaded
      exact (alike.step undropped times).2 loaded

/-- A check after a dropped limiter, and an accrual after a restart. -/
theorem drops_transparent_builder :
    ((RateLimiter.create {}).checkLimitDetailed
        ([(.increment none 5, 1), (.clearMemoryCache, 2)].foldl
          (RateLimiter.create {}).callStep (.empty, 0)).1 none 0 3).1 =
      ((RateLimiter.create {}).checkLimitDetailed
        ([(.increment none 5, 1)].foldl
          (RateLimiter.create {}).callStep (.empty, 0)).1 none 0 3).1 ∧
    getDebtState (step ⟨"acme", .builder, 60000, 86400000⟩
        ([.accrueDebt 5 0 1, .restart].foldl (step ⟨"acme", .builder, 60000, 86400000⟩)
          (start ⟨"acme", .builder, 60000, 86400000⟩ 0)) (.accrueDebt 1 2 3)).state =
      getDebtState (step ⟨"acme", .builder, 60000, 86400000⟩
        ([.accrueDebt 5 0 1].foldl (step ⟨"acme", .builder, 60000, 86400000⟩)
          (start ⟨"acme", .builder, 60000, 86400000⟩ 0)) (.accrueDebt 1 2 3)).state := by
  obtain ⟨limiter, quota, -⟩ :=
    drops_transparent (RateLimiter.create {}) ⟨"acme", .builder, 60000, 86400000⟩
  constructor
  · exact limiter 0 [(.increment none 5, 1), (.clearMemoryCache, 2)]
      ⟨by simp [RateLimiter.OrderedCall], by simp [RateLimiter.OrderedCall, RateLimiter.callStep],
        trivial⟩ none 0 3 (by decide)
  · exact (quota 0 [.accrueDebt 5 0 1, .restart] ⟨⟨by decide, by decide⟩, trivial, trivial⟩).2
      (.accrueDebt 1 2 3) rfl ⟨by decide, by decide⟩ rfl

end KeyCollective.Quota.TenantQuotaDO
