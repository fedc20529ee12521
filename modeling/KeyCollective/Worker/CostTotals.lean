import KeyCollective.Pool.UsageRoute
import KeyCollective.Quota.ConsumeRoute

/-!
# Cost totals

Reports with any bodies reach a pool's usage route and a tenant's consume route. Each adds what
it takes for the cost to a total of its own.
-/

namespace KeyCollective.Costs

open Quota (Account BodyRequest bodyMicrodollars toMicrodollars)
open KeyPool (UsageRequest usageCost)

/-! ## Costs of bodies -/

/-- A number below zero, or a string that denotes one. -/
def isNegative : Option Json → Bool
  | some (.number (.finite x)) => x < 0
  | some (.number .negInfinity) => true
  | some (.string s) => (stringToBigInt s).any (· < 0)
  | _ => false

/-- A cost that is there, and is neither a finite number nor a string `BigInt` can read. -/
def isMalformed : Option Json → Bool
  | none => false
  | some (.number (.finite _)) => false
  | some (.string s) => (stringToBigInt s).isNone
  | some _ => true

theorem stringToBigInt_trim (s : String) : stringToBigInt (trim s) = stringToBigInt s := by
  rw [stringToBigInt, stringToBigInt, trim, String.toList_ofList, trimChars_idempotent]

theorem toMicrodollars_string (s : String) :
    toMicrodollars (some (.string s)) = (stringToBigInt s).getD 0 := by
  rw [toMicrodollars, stringToBigInt_trim]
  by_cases blank : (trim s).isEmpty = true
  · have nothing : stringToBigInt s = some 0 := by
      rw [← stringToBigInt_trim, String.isEmpty_iff.mp blank]
      rfl
    rw [if_pos blank, nothing]
    rfl
  · rw [if_neg blank]

theorem usageCost_nonneg {field : Option Json} {cost : Int} (positive : isNegative field = false)
    (converted : usageCost field = .ok cost) : 0 ≤ cost := by
  unfold usageCost at converted
  split at converted
  · rename_i x
    have floor : ⌊x⌋ = cost := Except.ok.inj converted
    have nonneg : 0 ≤ x := by simpa [isNegative] using positive
    rw [← floor]
    exact Int.floor_nonneg.mpr nonneg
  · cases converted
  · rename_i s
    cases read : stringToBigInt s with
    | none =>
      rw [read] at converted
      cases converted
    | some n =>
      rw [read] at converted
      have same : n = cost := Except.ok.inj converted
      rw [← same]
      simpa [isNegative, read] using positive
  · exact (Except.ok.inj converted).le

theorem bodyMicrodollars_nonneg {field : Option Json} {cost : Int}
    (positive : isNegative field = false) (converted : bodyMicrodollars field = .ok cost) :
    0 ≤ cost := by
  unfold bodyMicrodollars at converted
  split at converted
  · rename_i x
    have truncated : x.num.tdiv x.den = cost := Except.ok.inj converted
    have nonneg : 0 ≤ x := by simpa [isNegative] using positive
    rw [← truncated]
    exact Int.tdiv_nonneg (Rat.num_nonneg.mpr nonneg) (Int.natCast_nonneg _)
  · cases converted
  · rename_i s
    have same := Except.ok.inj converted
    rw [toMicrodollars_string] at same
    rw [← same]
    cases read : stringToBigInt s with
    | none => exact le_refl 0
    | some n => simpa [isNegative, read] using positive
  · exact (Except.ok.inj converted).le

/-- The usage route refuses a malformed cost, or takes it for nothing. -/
theorem usageCost_malformed {field : Option Json} {cost : Int} (malformed : isMalformed field = true)
    (converted : usageCost field = .ok cost) : cost = 0 := by
  unfold usageCost at converted
  split at converted
  · cases malformed
  · cases converted
  · rename_i s
    have unreadable : stringToBigInt s = none := by simpa [isMalformed] using malformed
    rw [unreadable] at converted
    cases converted
  · exact (Except.ok.inj converted).symm

theorem bodyMicrodollars_malformed {field : Option Json} {cost : Int}
    (malformed : isMalformed field = true) (converted : bodyMicrodollars field = .ok cost) :
    cost = 0 := by
  unfold bodyMicrodollars at converted
  split at converted
  · cases malformed
  · cases converted
  · rename_i s
    have unreadable : stringToBigInt s = none := by simpa [isMalformed] using malformed
    have same := Except.ok.inj converted
    rw [toMicrodollars_string, unreadable] at same
    exact same.symm
  · exact (Except.ok.inj converted).symm

/-! ## Reports -/

variable {Entry : Type}

/-- A pool's counters and a tenant's. -/
structure Stores (Entry : Type) where
  pool : KeyPool.State
  quota : Account Entry

inductive Report (Entry : Type) where
  | usage (request : UsageRequest)
  | consume (request : BodyRequest Entry)

def Report.costMicrodollars : Report Entry → Option Json
  | .usage request => request.costMicrodollars
  | .consume request => request.costMicrodollars

variable (pool : KeyPool) (timestamp : Entry → Int) (rpdWindowMs : Int) (nameOf : Json → String)

/-- Whether a report is accepted, and the stores after it. -/
def serve (s : Stores Entry) : Report Entry → Bool × Stores Entry
  | .usage request =>
    let (answer, after) := pool.postUsage nameOf s.pool request
    (answer.isOk, { s with pool := after })
  | .consume request =>
    let (answer, after) := s.quota.postConsume timestamp rpdWindowMs nameOf request
    (match answer with
      | .ok allowed => allowed
      | .error _ => false,
      { s with quota := after })

def run (s : Stores Entry) (reports : List (Report Entry)) : Stores Entry :=
  reports.foldl (fun s report => (serve pool timestamp rpdWindowMs nameOf s report).2) s

/-- No key has cost less, and neither has the tenant. -/
structure NotLess (before after : Stores Entry) : Prop where
  keys : ∀ id, pool.accumulatedCost before.pool id ≤ pool.accumulatedCost after.pool id
  tenant : before.quota.total ≤ after.quota.total

/-- Every counter is as it was for who reads at the instants of the report. -/
def Unchanged (before after : Stores Entry) : Report Entry → Prop
  | .usage _ => after.pool.selector.health.limiter = before.pool.selector.health.limiter ∧
      after.quota = before.quota
  | .consume request => after.pool = before.pool ∧
      after.quota.seen timestamp rpdWindowMs request.loadedAt request.now =
        before.quota.seen timestamp rpdWindowMs request.loadedAt request.now

/-- A rejected report changes no counter, and a malformed cost is rejected or charges
nothing. -/
structure Answered (s : Stores Entry) (report : Report Entry) : Prop where
  rejected : (serve pool timestamp rpdWindowMs nameOf s report).1 = false →
    Unchanged timestamp rpdWindowMs s (serve pool timestamp rpdWindowMs nameOf s report).2 report
  malformed : isMalformed report.costMicrodollars = true →
    (∀ id, pool.accumulatedCost (serve pool timestamp rpdWindowMs nameOf s report).2.pool id =
        pool.accumulatedCost s.pool id) ∧
      (serve pool timestamp rpdWindowMs nameOf s report).2.quota.total = s.quota.total

theorem NotLess.refl (s : Stores Entry) : NotLess pool s s := ⟨fun _ => le_rfl, le_rfl⟩

variable {pool} in
theorem NotLess.trans {s t u : Stores Entry} (first : NotLess pool s t) (second : NotLess pool t u) :
    NotLess pool s u :=
  ⟨fun id => (first.keys id).trans (second.keys id), first.tenant.trans second.tenant⟩

theorem accumulatedCost_limiter {before after : KeyPool.State}
    (same : after.selector.health.limiter = before.selector.health.limiter) (id : String) :
    pool.accumulatedCost after id = pool.accumulatedCost before id := by
  rw [KeyPool.accumulatedCost, KeyPool.accumulatedCost, same]

theorem accumulatedCost_increment {before after : KeyPool.State} {keyId : String} {cost now : Int}
    (added : after.selector.health.limiter =
      pool.rateLimiter.increment before.selector.health.limiter (some keyId) cost now)
    (id : String) :
    pool.accumulatedCost after id =
      pool.accumulatedCost before id + if id = keyId then cost else 0 := by
  rw [KeyPool.accumulatedCost, added, KeyPool.load_increment]
  rfl

theorem total_of_loaded {account : Account Entry} (loaded : account.isLoaded = true) :
    account.total = account.totalCostMicrodollars := by
  rw [Account.total, if_pos loaded]

theorem total_of_seen {before after : Account Entry} {loadedAt now : Int}
    (kept : after = before ∨ after = before.seen timestamp rpdWindowMs loadedAt now) :
    after.total = before.total := by
  rcases kept with rfl | rfl
  · rfl
  · exact before.seen_total timestamp rpdWindowMs loadedAt now

theorem serve_notLess (s : Stores Entry) (report : Report Entry)
    (positive : isNegative report.costMicrodollars = false) :
    NotLess pool s (serve pool timestamp rpdWindowMs nameOf s report).2 := by
  cases report with
  | usage request =>
    refine ⟨fun id => ?_, le_rfl⟩
    change _ ≤ pool.accumulatedCost (pool.postUsage nameOf s.pool request).2 id
    rcases pool.postUsage_cases nameOf s.pool request with
      ⟨e, after, failed, kept⟩ | ⟨answer, after, accepted, converted, added⟩
    · rw [failed, accumulatedCost_limiter pool kept]
    · have nonneg : 0 ≤ answer.cost := usageCost_nonneg positive converted
      rw [accepted, accumulatedCost_increment pool added]
      split <;> omega
  | consume request =>
    refine ⟨fun id => le_rfl, ?_⟩
    change _ ≤ (s.quota.postConsume timestamp rpdWindowMs nameOf request).2.total
    rcases s.quota.postConsume_cases timestamp rpdWindowMs nameOf request with
      kept | ⟨cost, after, admitted, converted, loaded, charged⟩
    · exact (total_of_seen timestamp rpdWindowMs kept).ge
    · have nonneg : 0 ≤ cost := bodyMicrodollars_nonneg positive converted
      rw [admitted, total_of_loaded loaded, charged]
      omega

/-- Reading an account does not change it for who reads at the same instants. -/
theorem seen_of_kept {before after : Account Entry} {loadedAt now : Int}
    (kept : after = before ∨ after = before.seen timestamp rpdWindowMs loadedAt now) :
    after.seen timestamp rpdWindowMs loadedAt now =
      before.seen timestamp rpdWindowMs loadedAt now := by
  rcases kept with rfl | rfl
  · rfl
  · exact before.seen_seen timestamp rpdWindowMs loadedAt now

theorem serve_answered (s : Stores Entry) (report : Report Entry) :
    Answered pool timestamp rpdWindowMs nameOf s report := by
  cases report with
  | usage request =>
    rcases pool.postUsage_cases nameOf s.pool request with
      ⟨e, after, failed, kept⟩ | ⟨answer, after, accepted, converted, added⟩
    · constructor
      · intro _
        simp only [serve, failed]
        exact ⟨kept, rfl⟩
      · intro _
        simp only [serve, failed]
        exact ⟨accumulatedCost_limiter pool kept, trivial⟩
    · constructor
      · intro rejected
        simp only [serve, accepted] at rejected
        cases rejected
      · intro malformed
        have nothing : answer.cost = 0 := usageCost_malformed malformed converted
        simp only [serve, accepted]
        refine ⟨fun id => ?_, trivial⟩
        rw [accumulatedCost_increment pool added, nothing]
        split <;> omega
  | consume request =>
    rcases s.quota.postConsume_cases timestamp rpdWindowMs nameOf request with
      kept | ⟨cost, after, admitted, converted, loaded, charged⟩
    · constructor
      · intro _
        exact ⟨rfl, seen_of_kept timestamp rpdWindowMs kept⟩
      · intro _
        exact ⟨fun _ => rfl, total_of_seen timestamp rpdWindowMs kept⟩
    · constructor
      · intro rejected
        simp only [serve, admitted] at rejected
        cases rejected
      · intro malformed
        have nothing : cost = 0 := bodyMicrodollars_malformed malformed converted
        simp only [serve, admitted]
        refine ⟨fun _ => trivial, ?_⟩
        rw [total_of_loaded loaded, charged, nothing, Int.add_zero]

theorem run_notLess (s : Stores Entry) {reports : List (Report Entry)}
    (positive : ∀ report ∈ reports, isNegative report.costMicrodollars = false) :
    NotLess pool s (run pool timestamp rpdWindowMs nameOf s reports) := by
  induction reports generalizing s with
  | nil => exact .refl pool s
  | cons report rest ih =>
    have first := serve_notLess pool timestamp rpdWindowMs nameOf s report
      (positive report List.mem_cons_self)
    exact first.trans (ih _ fun later mem => positive later (List.mem_cons_of_mem report mem))

/-- **Totals never decrease while no cost is negative.** Of the reports of any run, whatever
their bodies, a rejected one changes no counter, and a malformed cost is rejected or charges
nothing. -/
theorem totals_monotone (s : Stores Entry) (reports : List (Report Entry)) :
    ((∀ report ∈ reports, isNegative report.costMicrodollars = false) →
      ∀ earlier between later, reports = earlier ++ between ++ later →
        NotLess pool (run pool timestamp rpdWindowMs nameOf s earlier)
          (run pool timestamp rpdWindowMs nameOf s (earlier ++ between))) ∧
    ∀ earlier report later, reports = earlier ++ report :: later →
      Answered pool timestamp rpdWindowMs nameOf (run pool timestamp rpdWindowMs nameOf s earlier)
        report := by
  constructor
  · rintro positive earlier between later rfl
    have between_positive : ∀ report ∈ between, isNegative report.costMicrodollars = false :=
      fun report mem => positive report (by simp [mem])
    have next := run_notLess pool timestamp rpdWindowMs nameOf
      (run pool timestamp rpdWindowMs nameOf s earlier) between_positive
    rwa [run, run, ← List.foldl_append] at next
  · intro earlier report later _
    exact serve_answered pool timestamp rpdWindowMs nameOf _ report

/-! ## A pool and a tenant -/

/-- A pool with one key, and a tenant that has asked for nothing yet. -/
def acme : Stores Quota.QuotaEntry where
  pool := (KeyPool.slowPool.addKey KeyPool.slowPool.start (KeyPool.groqKey "k1") none).2
  quota := (Quota.TenantQuotaDO.instantiate ⟨"acme", .builder, 60000, 86400000⟩ none).account

/-- A usage report of `k1` with this cost. -/
def usageReport (cost : Json) : Report Quota.QuotaEntry :=
  .usage ⟨none, some (.object [("keyId", .string "k1"), ("costMicrodollars", cost)]), 0, none⟩

/-- The tenant's first request, with this string as its cost. -/
def consumeReport (cost : String) : Report Quota.QuotaEntry :=
  .consume
    { headerTenant := none
      body := some (.object [("costMicrodollars", .string cost)])
      verdict := (Quota.evaluateQuota { costMicrodollars := some (.string cost) }
        (Quota.TenantQuotaDO.evaluationContext ⟨"acme", .builder, 60000, 86400000⟩
          (Quota.TenantQuotaDO.instantiate ⟨"acme", .builder, 60000, 86400000⟩ none) 0)).verdict
      loadedAt := 0
      now := 0
      persistedAt := 0 }

/-- Serving the pool and the tenant of `acme`. -/
def serveAcme (s : Stores Quota.QuotaEntry) (report : Report Quota.QuotaEntry) :
    Bool × Stores Quota.QuotaEntry :=
  serve KeyPool.slowPool Quota.QuotaEntry.timestamp 86400000 (fun _ => "") s report

theorem totals_monotone_acme :
    NotLess KeyPool.slowPool acme
      (run KeyPool.slowPool Quota.QuotaEntry.timestamp 86400000 (fun _ => "") acme
        [usageReport (.string "12"), consumeReport "invalid"]) := by
  have positive : ∀ report ∈ [usageReport (.string "12"), consumeReport "invalid"],
      isNegative report.costMicrodollars = false := by
    rintro report (_ | ⟨_, _ | ⟨_, ⟨⟩⟩⟩) <;> rfl
  exact (totals_monotone KeyPool.slowPool Quota.QuotaEntry.timestamp 86400000 (fun _ => "") acme
    [usageReport (.string "12"), consumeReport "invalid"]).1 positive []
    [usageReport (.string "12"), consumeReport "invalid"] [] rfl

/-- A malformed cost is admitted and its request is counted; a negative one is taken off the
key's total. -/
theorem malformed_counted_negative_taken_off :
    (isMalformed (consumeReport "invalid").costMicrodollars = true ∧
      (serveAcme acme (consumeReport "invalid")).1 = true ∧
      acme.quota.entries.length = 0 ∧
      (serveAcme acme (consumeReport "invalid")).2.quota.entries.length = 1) ∧
    (serveAcme acme (usageReport (.number (.finite (-5))))).1 = true ∧
      KeyPool.slowPool.accumulatedCost
          (serveAcme acme (usageReport (.number (.finite (-5))))).2.pool "k1" <
        KeyPool.slowPool.accumulatedCost acme.pool "k1" := by
  refine ⟨⟨rfl, ?_, rfl, ?_⟩, ?_, ?_⟩ <;> decide

end KeyCollective.Costs
