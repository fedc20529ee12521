import KeyCollective.Coordinator.PoolCoordinator
import Mathlib.Tactic.Abel

/-!
# The coordinator's window

The entries that survive the clean-ups of reports and alarms weigh, after every later
cut-off, what all reports of the activation do. A report is answered by the volumes of the
last five minutes, whenever the alarms ran.
-/

namespace KeyCollective.PoolCoordinatorDO

open SlidingWindow

/-- A report as it was received. -/
structure Report where
  tenantId : String
  volume : Rat
  timestamp : Int

def Report.gauge : Gauge Report Int Rat := ⟨timestamp, volume⟩

/-- What the tenant has reported. -/
def reportsOf (history : List Report) (tenantId : String) : List Report :=
  history.filter fun report => report.tenantId = tenantId

def poolVolume (history : List Report) (now : Int) : Rat :=
  Report.gauge.sumAfter (now - volumeWindowMs) history

def tenantVolume (history : List Report) (tenantId : String) (now : Int) : Rat :=
  Report.gauge.sumAfter (now - volumeWindowMs) (reportsOf history tenantId)

/-- The pool has a volume, and the tenant more than 35 percent of it. -/
def Exceeds (history : List Report) (tenantId : String) (now : Int) : Prop :=
  0 < poolVolume history now ∧
    35 / 100 * poolVolume history now < tenantVolume history tenantId now

instance (history : List Report) (tenantId : String) (now : Int) :
    Decidable (Exceeds history tenantId now) := by
  unfold Exceeds
  infer_instance

/-- The answers to the reports of a run. -/
def answers (s : State) : List Call → List Bool
  | [] => []
  | .reportVolume tenantId volume now :: rest =>
    let (brakeApplied, s) := reportVolume s tenantId volume now
    brakeApplied :: answers s rest
  | .alarm now :: rest => answers (PoolCoordinatorDO.alarm s now) rest

/-- What the answers have to be after the reports of `history`. -/
def expectedAnswers (history : List Report) : List Call → List Bool
  | [] => []
  | .reportVolume tenantId volume now :: rest =>
    let history := history ++ [⟨tenantId, volume, now⟩]
    decide (Exceeds history tenantId now) :: expectedAnswers history rest
  | .alarm _ :: rest => expectedAnswers history rest

/-! ## What the map weighs -/

/-- The weight of all entries after a cut-off. -/
def weightAfter (cutoff : Int) (volumes : IndexedMap TenantVolumes.tenantId) : Rat :=
  (volumes.values.map fun vols => VolumeEntry.gauge.sumAfter cutoff vols.entries).sum

/-- The weight of the entries of one tenant. -/
def weightOf (cutoff : Int) (volumes : IndexedMap TenantVolumes.tenantId) (tenantId : String) :
    Rat :=
  VolumeEntry.gauge.sumAfter cutoff
    (((volumes.get? tenantId).map TenantVolumes.entries).getD [])

theorem sumAfter_fresh {horizon cutoff : Int} (le : horizon ≤ cutoff) (vols : TenantVolumes) :
    VolumeEntry.gauge.sumAfter cutoff (vols.fresh horizon).entries =
      VolumeEntry.gauge.sumAfter cutoff vols.entries :=
  VolumeEntry.gauge.sumAfter_prune vols.entries le

theorem weightAfter_set (cutoff : Int) (volumes : IndexedMap TenantVolumes.tenantId)
    (vols : TenantVolumes) :
    weightAfter cutoff (volumes.set vols) + weightOf cutoff volumes vols.tenantId =
      weightAfter cutoff volumes + VolumeEntry.gauge.sumAfter cutoff vols.entries := by
  unfold weightAfter weightOf
  cases found : volumes.get? vols.tenantId with
  | some old => exact IndexedMap.sum_set volumes _ found
  | none =>
    rw [IndexedMap.sum_set_new volumes _ found]
    exact add_zero _

theorem weightOf_set (cutoff : Int) (volumes : IndexedMap TenantVolumes.tenantId)
    (vols : TenantVolumes) (tenantId : String) :
    weightOf cutoff (volumes.set vols) tenantId =
      if vols.tenantId = tenantId then VolumeEntry.gauge.sumAfter cutoff vols.entries
      else weightOf cutoff volumes tenantId := by
  unfold weightOf
  rw [IndexedMap.get?_set]
  split <;> rfl

theorem weightAfter_fresh {horizon cutoff : Int} (le : horizon ≤ cutoff)
    (volumes : IndexedMap TenantVolumes.tenantId) :
    weightAfter cutoff (volumes.map (TenantVolumes.fresh horizon)
      (TenantVolumes.fresh_tenantId horizon)) = weightAfter cutoff volumes := by
  simp only [weightAfter, IndexedMap.map, List.map_map, Function.comp_def, sumAfter_fresh le]

theorem weightOf_fresh {horizon cutoff : Int} (le : horizon ≤ cutoff)
    (volumes : IndexedMap TenantVolumes.tenantId) (tenantId : String) :
    weightOf cutoff (volumes.map (TenantVolumes.fresh horizon)
      (TenantVolumes.fresh_tenantId horizon)) tenantId = weightOf cutoff volumes tenantId := by
  unfold weightOf
  rw [IndexedMap.get?_map]
  cases volumes.get? tenantId with
  | none => rfl
  | some vols => exact sumAfter_fresh le vols

/-- Tenants without entries weigh nothing. -/
theorem weightAfter_nonempty (cutoff : Int) (volumes : IndexedMap TenantVolumes.tenantId) :
    weightAfter cutoff (volumes.filter fun vols => !vols.entries.isEmpty) =
      weightAfter cutoff volumes := by
  apply IndexedMap.sum_filter
  intro vols empty
  have none : vols.entries = [] := by simpa using empty
  rw [none]
  rfl

theorem weightOf_nonempty (cutoff : Int) (volumes : IndexedMap TenantVolumes.tenantId)
    (tenantId : String) :
    weightOf cutoff (volumes.filter fun vols => !vols.entries.isEmpty) tenantId =
      weightOf cutoff volumes tenantId := by
  unfold weightOf
  rw [IndexedMap.get?_filter]
  cases volumes.get? tenantId with
  | none => rfl
  | some vols =>
    rw [Option.filter_some]
    cases empty : vols.entries.isEmpty with
    | false => rfl
    | true =>
      change 0 = VolumeEntry.gauge.sumAfter cutoff vols.entries
      rw [List.isEmpty_iff.mp empty]
      rfl

/-! ## What a call keeps -/

/-- The state weighs what the reports do after every cut-off that a later call can have. -/
structure Keeps (clock : Int) (history : List Report) (s : State) : Prop where
  pool : ∀ cutoff, clock - volumeWindowMs ≤ cutoff →
    weightAfter cutoff s.tenantVolumes = Report.gauge.sumAfter cutoff history
  tenant : ∀ tenantId cutoff, clock - volumeWindowMs ≤ cutoff →
    weightOf cutoff s.tenantVolumes tenantId =
      Report.gauge.sumAfter cutoff (reportsOf history tenantId)

theorem keeps_start (clock : Int) (storedBrakes : Option (IndexedMap Brake.tenantId)) :
    Keeps clock [] (initStorage storedBrakes) :=
  ⟨fun _ _ => rfl, fun _ _ _ => rfl⟩

variable {clock now : Int} {history : List Report} {s : State}

theorem Keeps.alarm (keeps : Keeps clock history s) (later : clock ≤ now) :
    Keeps now history (PoolCoordinatorDO.alarm s now) := by
  constructor
  · intro cutoff after
    change weightAfter cutoff (IndexedMap.filter _ _) = _
    rw [weightAfter_nonempty, weightAfter_fresh after]
    exact keeps.pool cutoff (by omega)
  · intro tenantId cutoff after
    change weightOf cutoff (IndexedMap.filter _ _) tenantId = _
    rw [weightOf_nonempty, weightOf_fresh after]
    exact keeps.tenant tenantId cutoff (by omega)

/-- A report adds its volume after the cut-offs before it. -/
theorem sumAfter_reportedVolumes (s : State) (tenantId : String) (volume : Rat) {cutoff : Int}
    (after : now - volumeWindowMs ≤ cutoff) :
    VolumeEntry.gauge.sumAfter cutoff (reportedVolumes s tenantId volume now).entries =
      weightOf cutoff s.tenantVolumes tenantId + if cutoff < now then volume else 0 := by
  rw [reportedVolumes, sumAfter_fresh after, weightOf]
  by_cases late : cutoff < now <;>
    simp [Gauge.sumAfter, VolumeEntry.gauge, State.entriesOf, late]

theorem sumAfter_report (history : List Report) (report : Report) (cutoff : Int) :
    Report.gauge.sumAfter cutoff (history ++ [report]) =
      Report.gauge.sumAfter cutoff history +
        if cutoff < report.timestamp then report.volume else 0 := by
  by_cases late : cutoff < report.timestamp <;> simp [Gauge.sumAfter, Report.gauge, late]

theorem reportsOf_append (history : List Report) (report : Report) (tenantId : String) :
    reportsOf (history ++ [report]) tenantId =
      if report.tenantId = tenantId then reportsOf history tenantId ++ [report]
      else reportsOf history tenantId := by
  rw [reportsOf, List.filter_append]
  split
  case isTrue own => simp [reportsOf, own]
  case isFalse other => simp [reportsOf, other]

theorem Keeps.volumesAfter (keeps : Keeps clock history s) (later : clock ≤ now)
    (tenantId : String) (volume : Rat) {next : State}
    (volumes : next.tenantVolumes = volumesAfter s tenantId volume now) :
    Keeps now (history ++ [⟨tenantId, volume, now⟩]) next := by
  constructor
  · intro cutoff after
    have before := keeps.pool cutoff (by omega)
    have set := weightAfter_set cutoff s.tenantVolumes (reportedVolumes s tenantId volume now)
    rw [sumAfter_reportedVolumes s tenantId volume after] at set
    change _ + weightOf cutoff s.tenantVolumes tenantId = _ at set
    rw [volumes, PoolCoordinatorDO.volumesAfter, weightAfter_fresh after, sumAfter_report, ← before]
    refine add_right_cancel (set.trans ?_)
    abel
  · intro other cutoff after
    have before := keeps.tenant other cutoff (by omega)
    rw [volumes, PoolCoordinatorDO.volumesAfter, weightOf_fresh after, weightOf_set,
      reportsOf_append, sumAfter_reportedVolumes s tenantId volume after]
    change (if tenantId = other then _ else _) = _
    by_cases own : tenantId = other
    · subst own
      rw [if_pos rfl, if_pos rfl, sumAfter_report, before]
    · rw [if_neg own, if_neg own]
      exact before

theorem totalVolume_fresh (cutoff : Int) (vols : TenantVolumes) :
    totalVolume (vols.fresh cutoff).entries = VolumeEntry.gauge.sumAfter cutoff vols.entries :=
  rfl

/-- The totals a report compares. -/
theorem totals (s : State) (tenantId : String) (volume : Rat) (now : Int) :
    totalVolume (reportedVolumes s tenantId volume now).entries =
        weightOf (now - volumeWindowMs) (volumesAfter s tenantId volume now) tenantId ∧
      ((volumesAfter s tenantId volume now).values.map fun vols => totalVolume vols.entries).sum =
        weightAfter (now - volumeWindowMs) (volumesAfter s tenantId volume now) := by
  have again (vols : TenantVolumes) (cutoff : Int) :
      VolumeEntry.gauge.sumAfter cutoff (vols.fresh cutoff).entries =
        totalVolume (vols.fresh cutoff).entries :=
    (sumAfter_fresh le_rfl vols).trans (totalVolume_fresh cutoff vols).symm
  constructor
  · have own : (reportedVolumes s tenantId volume now).tenantId = tenantId := rfl
    rw [volumesAfter, weightOf_fresh le_rfl, weightOf_set, if_pos own]
    exact (again _ _).symm
  · simp only [weightAfter, volumesAfter, IndexedMap.map, List.map_map, Function.comp_def, again]

theorem Keeps.reportVolume (keeps : Keeps clock history s) (later : clock ≤ now)
    (tenantId : String) (volume : Rat) :
    (reportVolume s tenantId volume now).1 =
        decide (Exceeds (history ++ [⟨tenantId, volume, now⟩]) tenantId now) ∧
      Keeps now (history ++ [⟨tenantId, volume, now⟩]) (reportVolume s tenantId volume now).2 := by
  have next {after : State}
      (volumes : after.tenantVolumes = PoolCoordinatorDO.volumesAfter s tenantId volume now) :
      Keeps now (history ++ [⟨tenantId, volume, now⟩]) after :=
    keeps.volumesAfter later tenantId volume volumes
  have after : Keeps now (history ++ [⟨tenantId, volume, now⟩])
      { s with tenantVolumes := PoolCoordinatorDO.volumesAfter s tenantId volume now } := next rfl
  obtain ⟨tenantTotal, poolTotal⟩ := totals s tenantId volume now
  have tenant := tenantTotal.trans (after.tenant tenantId _ le_rfl)
  have pool := poolTotal.trans (after.pool _ le_rfl)
  change _ = tenantVolume _ tenantId now at tenant
  change _ = poolVolume _ now at pool
  simp only [PoolCoordinatorDO.reportVolume, tenant, pool]
  split
  case isTrue exceeds => exact ⟨(decide_eq_true exceeds).symm, next rfl⟩
  case isFalse within => exact ⟨(decide_eq_false within).symm, next rfl⟩

theorem Keeps.answers (keeps : Keeps clock history s) {calls : List Call}
    (ordered : InOrder clock calls) : answers s calls = expectedAnswers history calls := by
  induction calls generalizing clock history s with
  | nil => rfl
  | cons call rest ih =>
    cases call with
    | alarm now => exact ih (keeps.alarm ordered.1) ordered.2
    | reportVolume tenantId volume now =>
      obtain ⟨answer, kept⟩ := keeps.reportVolume ordered.1 tenantId volume
      exact congrArg₂ List.cons answer (ih kept ordered.2)

def Call.isReport : Call → Bool
  | .reportVolume .. => true
  | .alarm _ => false

theorem expectedAnswers_reports (history : List Report) (calls : List Call) :
    expectedAnswers history (calls.filter Call.isReport) = expectedAnswers history calls := by
  induction calls generalizing history with
  | nil => rfl
  | cons call rest ih =>
    cases call with
    | alarm now => exact ih history
    | reportVolume tenantId volume now => exact congrArg (List.cons _) (ih _)

/-- The reports of an activation are answered by the volumes of the last five minutes, and the
same without the alarms among them. -/
theorem rolling_window_exact (clock : Int) (storedBrakes : Option (IndexedMap Brake.tenantId))
    (calls : List Call) (ordered : InOrder clock calls) :
    answers (initStorage storedBrakes) calls = expectedAnswers [] calls ∧
      answers (initStorage storedBrakes) (calls.filter Call.isReport) =
        answers (initStorage storedBrakes) calls := by
  have start := keeps_start clock storedBrakes
  have all := start.answers ordered
  have reports := start.answers (ordered.filter Call.isReport)
  exact ⟨all, by rw [reports, expectedAnswers_reports, all]⟩

/-- Two tenants report, with an alarm after the first report has left the window. -/
theorem rolling_window_two :
    answers (initStorage none)
        [.reportVolume "acme" 7 0, .reportVolume "bob" 1 1000, .alarm 300001,
          .reportVolume "acme" 1 300500, .reportVolume "bob" 3 600500] =
      [true, false, true, true] := by
  have exact := (rolling_window_exact 0 none [.reportVolume "acme" 7 0, .reportVolume "bob" 1 1000,
    .alarm 300001, .reportVolume "acme" 1 300500, .reportVolume "bob" 3 600500] (by decide)).1
  rw [exact]
  decide +kernel

end KeyCollective.PoolCoordinatorDO
