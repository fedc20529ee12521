import KeyCollective.Quota.Marked

/-!
# Hard jail

A tenant that owes more than it contributed is in hard jail, which is to clamp it to two
requests a minute and fifty a day. The evaluator looks at the tier alone, and reports the
ceiling of the debt beside its answer, so the clamp is there only where the tier is itself
that low.
-/

namespace KeyCollective.Quota.TenantQuotaDO

open SlidingWindow

/-- `getDebtState` computes `HARD_JAIL`. -/
def jailed (s : State) : Bool := (getDebtState s).2.2.2 = .hardJail

variable (q : TenantQuotaDO)

/-- A request that finds the tenant in hard jail, before its state is loaded or after. -/
def Call.inJail (run : Run) : Call → Bool
  | .op (.consumeQuota _ loadedAt _ _) =>
    jailed run.state || jailed (q.ensureLoaded run.state loadedAt)
  | _ => false

/-- The log is of the admissions made in hard jail. -/
def patrol (w : Watched) (call : Call) : Watched := q.watch (call.inJail q w.run) w call

/-- No minute holds more than two admissions, and no day more than fifty. -/
structure Clamped (w : Watched) : Prop where
  rpm : QuotaEntry.gauge.Bounded q.rpmWindowMs 2 w.log
  rpd : QuotaEntry.gauge.Bounded q.rpdWindowMs 50 w.log

/-- The tiers whose own limits are within the clamp. -/
def LowTier (tier : UserTier) : Prop := tier = .probationary ∨ tier = .suspended

/-- A request made in hard jail is evaluated on a low tier. -/
def OnLowTier (w : Watched) : Call → Prop
  | .op (.consumeQuota request loadedAt now persistedAt) =>
    Call.inJail q w.run (.op (.consumeQuota request loadedAt now persistedAt)) = true →
      LowTier (q.evaluatedTier w.run.state request loadedAt)
  | _ => True

/-- Time passes, a request made in hard jail is evaluated on a low tier, and the counters
are not reset within a day of one that was admitted. -/
def Confined (w : Watched) (call : Call) : Prop :=
  OrderedCall w call ∧ q.OnLowTier w call ∧ Undisturbed q.rpdWindowMs w call

theorem LowTier.limits {tier : UserTier} (low : LowTier tier) :
    (getTierLimits tier).rpmLimit ≤ (2 : Int) ∧ (getTierLimits tier).rpdLimit ≤ (50 : Int) := by
  obtain rfl | rfl := low
  · exact ⟨le_rfl, le_rfl⟩
  · constructor <;> decide

variable {q}

theorem Clamped.step (nested : q.rpmWindowMs ≤ q.rpdWindowMs) {w : Watched} {call : Call}
    (watch : q.Watch q.rpdWindowMs w) (clamped : q.Clamped w) (confined : q.Confined w call) :
    q.Clamped (q.patrol w call) := by
  obtain ⟨ordered, tier, -⟩ := confined
  have room (inJail : call.inJail q w.run = true) (op : Op) (is : call = .op op)
      (e : QuotaEntry) (granted : e ∈ q.grants w.run op) :
      QuotaEntry.gauge.sumAfter (e.timestamp - q.rpmWindowMs) w.log + e.count ≤ 2 ∧
        QuotaEntry.gauge.sumAfter (e.timestamp - q.rpdWindowMs) w.log + e.count ≤ 50 := by
    subst is
    obtain ⟨request, loadedAt, now, persistedAt, rfl, -, after, rpm, rpd, -⟩ :=
      watch.books.grants_room ordered nested granted
    have limits := (tier inJail).limits
    have minute := WithTop.coe_le_coe.mp (rpm.trans limits.1)
    have day := WithTop.coe_le_coe.mp (rpd.trans limits.2)
    have inMinute := watch.sumAfter_le
      (show w.run.clock - q.rpdWindowMs ≤ e.timestamp - q.rpmWindowMs by omega)
    have inDay := watch.sumAfter_le
      (show w.run.clock - q.rpdWindowMs ≤ e.timestamp - q.rpdWindowMs by omega)
    omega
  constructor
  · apply watch.books.bounded_watch nested ordered clamped.rpm
    intro inJail op is e granted
    exact (room inJail op is e granted).1
  · apply watch.books.bounded_watch nested ordered clamped.rpd
    intro inJail op is e granted
    exact (room inJail op is e granted).2

variable (q)

/-- In a run whose requests in hard jail are all evaluated on a low tier, the admissions made
in hard jail stay within two a minute and fifty a day. -/
theorem hard_jail_enforced (nested : q.rpmWindowMs ≤ q.rpdWindowMs) (clock : Int)
    (calls : List Call) (guarded : Transition.Guarded q.patrol q.Confined (q.watchFrom clock) calls) :
    ∀ w ∈ Transition.reached q.patrol (q.watchFrom clock) calls, q.Clamped w := by
  intro w reached
  refine (Transition.invariant_of_guarded
    (I := fun w => q.Watch q.rpdWindowMs w ∧ q.Clamped w) ?_ ?_ guarded w reached).2
  · rintro w call ⟨watch, clamped⟩ confined
    exact ⟨watch.step _ confined.1 confined.2.2, clamped.step nested watch confined⟩
  · exact ⟨Watch.start _ clock, Gauge.Bounded.nil _ _, Gauge.Bounded.nil _ _⟩

/-- A tenant on probation runs into debt and asks three times in a minute. -/
def probation : List Call :=
  [.op (.setTier .probationary 0 0), .op (.accrueDebt 1 0 0),
    .op (.consumeQuota {} 1 1 1), .op (.consumeQuota {} 2 2 2), .op (.consumeQuota {} 3 3 3)]

theorem hard_jail_enforced_probation :
    Clamped ⟨"acme", .builder, 60000, 86400000⟩
      (probation.foldl (patrol ⟨"acme", .builder, 60000, 86400000⟩)
        (watchFrom ⟨"acme", .builder, 60000, 86400000⟩ 0)) := by
  refine hard_jail_enforced ⟨"acme", .builder, 60000, 86400000⟩ (by decide) 0 probation ?_ _
    (Transition.foldl_mem_reached _ _ _)
  refine ⟨⟨⟨by decide, by decide⟩, trivial, trivial⟩, ⟨⟨by decide, by decide⟩, trivial, trivial⟩,
    ⟨⟨by decide, by decide, by decide⟩, fun _ => Or.inl rfl, trivial⟩,
    ⟨⟨by decide, by decide, by decide⟩, fun _ => Or.inl rfl, trivial⟩,
    ⟨⟨by decide, by decide, by decide⟩, fun _ => Or.inl rfl, trivial⟩, trivial⟩

/-- On the tier every object starts with, a tenant in hard jail is admitted three times
within three milliseconds. -/
theorem hard_jail_not_enforced :
    ¬∀ calls : List Call,
      Transition.Guarded (patrol ⟨"acme", .builder, 60000, 86400000⟩) OrderedCall
        (watchFrom ⟨"acme", .builder, 60000, 86400000⟩ 0) calls →
      ∀ w ∈ Transition.reached (patrol ⟨"acme", .builder, 60000, 86400000⟩)
        (watchFrom ⟨"acme", .builder, 60000, 86400000⟩ 0) calls,
        Clamped ⟨"acme", .builder, 60000, 86400000⟩ w := by
  intro enforced
  have clamped := enforced
    [.op (.accrueDebt 1 0 0), .op (.consumeQuota {} 1 1 1), .op (.consumeQuota {} 2 2 2),
      .op (.consumeQuota {} 3 3 3)]
    ⟨⟨by decide, by decide⟩, ⟨by decide, by decide, by decide⟩, ⟨by decide, by decide, by decide⟩,
      ⟨by decide, by decide, by decide⟩, trivial⟩ _ (Transition.foldl_mem_reached _ _ _)
  exact absurd (clamped.rpm 3) (by decide)

end KeyCollective.Quota.TenantQuotaDO
