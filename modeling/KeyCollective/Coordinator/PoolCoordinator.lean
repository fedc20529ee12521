import KeyCollective.Lib.IndexedMap
import KeyCollective.Lib.SlidingWindow
import Mathlib.Algebra.Order.Field.Rat

/-!
# The pool's coordinator

One object for all tenants. It keeps the volumes they report for five minutes, and brakes a
tenant for a minute when it reports more than 35 percent of the pool's.
-/

namespace KeyCollective.PoolCoordinatorDO

open SlidingWindow

structure VolumeEntry where
  volume : Rat
  timestamp : Int
deriving DecidableEq

def VolumeEntry.gauge : Gauge VolumeEntry Int Rat := ⟨timestamp, volume⟩

structure TenantVolumes where
  tenantId : String
  entries : List VolumeEntry
deriving DecidableEq

def TenantVolumes.fresh (cutoff : Int) (vols : TenantVolumes) : TenantVolumes :=
  { vols with entries := vols.entries.filter fun v => cutoff < v.timestamp }

@[simp] theorem TenantVolumes.fresh_tenantId (cutoff : Int) (vols : TenantVolumes) :
    (vols.fresh cutoff).tenantId = vols.tenantId := rfl

structure Brake where
  tenantId : String
  expiry : Int
deriving DecidableEq

structure State where
  tenantVolumes : IndexedMap TenantVolumes.tenantId
  activeBrakes : IndexedMap Brake.tenantId
  /-- What is put under `activeBrakes`. -/
  storedBrakes : Option (IndexedMap Brake.tenantId)

def volumeWindowMs : Int := 5 * 60 * 1000

def brakeMs : Int := 60 * 1000

/-- A new instance, which reads the brakes from storage. -/
def initStorage (storedBrakes : Option (IndexedMap Brake.tenantId)) : State :=
  ⟨.empty, storedBrakes.getD .empty, storedBrakes⟩

def State.entriesOf (s : State) (tenantId : String) : List VolumeEntry :=
  ((s.tenantVolumes.get? tenantId).map TenantVolumes.entries).getD []

def alarm (s : State) (now : Int) : State :=
  let expired (brake : Brake) : Bool := brake.expiry < now
  let brakesChanged := s.activeBrakes.values.any expired
  let activeBrakes := s.activeBrakes.filter fun brake => !expired brake
  let fresh := s.tenantVolumes.map (TenantVolumes.fresh (now - volumeWindowMs))
    (TenantVolumes.fresh_tenantId _)
  { tenantVolumes := fresh.filter fun vols => !vols.entries.isEmpty
    activeBrakes
    storedBrakes := if brakesChanged then some activeBrakes else s.storedBrakes }

def totalVolume (entries : List VolumeEntry) : Rat := (entries.map VolumeEntry.volume).sum

/-- The entries of a tenant that reports, cleaned up. -/
def reportedVolumes (s : State) (tenantId : String) (volume : Rat) (now : Int) : TenantVolumes :=
  TenantVolumes.fresh (now - volumeWindowMs) ⟨tenantId, s.entriesOf tenantId ++ [⟨volume, now⟩]⟩

/-- The map after a report. All tenants are cleaned up while the pool's total is taken. -/
def volumesAfter (s : State) (tenantId : String) (volume : Rat) (now : Int) :
    IndexedMap TenantVolumes.tenantId :=
  (s.tenantVolumes.set (reportedVolumes s tenantId volume now)).map
    (TenantVolumes.fresh (now - volumeWindowMs)) (TenantVolumes.fresh_tenantId _)

/-- The body of a report names the tenant and the volume. The answer is `brakeApplied`. -/
def reportVolume (s : State) (tenantId : String) (volume : Rat) (now : Int) : Bool × State :=
  let tenantTotal := totalVolume (reportedVolumes s tenantId volume now).entries
  let tenantVolumes := volumesAfter s tenantId volume now
  let poolTotal := (tenantVolumes.values.map fun vols => totalVolume vols.entries).sum
  if 0 < poolTotal ∧ 35 / 100 * poolTotal < tenantTotal then
    let activeBrakes := s.activeBrakes.set ⟨tenantId, now + brakeMs⟩
    (true, { tenantVolumes, activeBrakes, storedBrakes := some activeBrakes })
  else (false, { s with tenantVolumes })

/-- An expiry of 0 counts as none. -/
def braked (s : State) (tenantId : String) (now : Int) : Bool :=
  match s.activeBrakes.get? tenantId with
  | some brake => brake.expiry ≠ 0 ∧ now < brake.expiry
  | none => false

/-- The last segment of a path under `/coordinator/brake-status/`. -/
def statusPath (path : List String) : Option String :=
  match path with
  | "coordinator" :: "brake-status" :: first :: rest => some (rest.getLast?.getD first)
  | _ => none

/-- `none` is the answer to any other path. -/
def brakeStatus (s : State) (path : List String) (now : Int) : Option Bool :=
  (statusPath path).map fun tenantId => braked s tenantId now

/-- What changes the coordinator. -/
inductive Call where
  | reportVolume (tenantId : String) (volume : Rat) (now : Int)
  | alarm (now : Int)

def Call.now : Call → Int
  | .reportVolume _ _ now => now
  | .alarm now => now

/-- The calls are made under a clock that does not go back. -/
def InOrder (clock : Int) : List Call → Prop
  | [] => True
  | call :: rest => clock ≤ call.now ∧ InOrder call.now rest

instance InOrder.decidable (clock : Int) : ∀ calls, Decidable (InOrder clock calls)
  | [] => isTrue trivial
  | call :: rest =>
    have := InOrder.decidable call.now rest
    inferInstanceAs (Decidable (_ ∧ _))

theorem InOrder.later {clock earlier : Int} {calls : List Call} (ordered : InOrder clock calls)
    (le : earlier ≤ clock) : InOrder earlier calls := by
  cases calls with
  | nil => trivial
  | cons call rest => exact ⟨Int.le_trans le ordered.1, ordered.2⟩

theorem InOrder.filter {clock : Int} {calls : List Call} (ordered : InOrder clock calls)
    (keep : Call → Bool) : InOrder clock (calls.filter keep) := by
  induction calls generalizing clock with
  | nil => trivial
  | cons call rest ih =>
    cases kept : keep call with
    | true =>
      rw [List.filter_cons_of_pos kept]
      exact ⟨ordered.1, ih ordered.2⟩
    | false =>
      rw [List.filter_cons_of_neg (by simp [kept])]
      exact (ih ordered.2).later ordered.1

end KeyCollective.PoolCoordinatorDO
