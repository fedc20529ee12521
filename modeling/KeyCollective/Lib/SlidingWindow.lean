import Mathlib.Algebra.Order.BigOperators.Group.List
import Mathlib.Algebra.Order.Group.Defs
import Mathlib.Algebra.Order.Monoid.Canonical.Defs

/-!
# Sliding-window counters

A counter keeps weighted, timestamped records. A window bound speaks of the
history of everything admitted; the counter stores a pruned and merged list.
`Represents` ties the two: from a horizon on, both weigh the same after every
cutoff. A record admitted while the history leaves room for it keeps every
window of the history within its bound.
-/

namespace SlidingWindow

variable {E H T M : Type}

/-- How a list of records is read: when each was made and how much it counts. -/
structure Gauge (E T M : Type) where
  time : E → T
  weight : E → M

namespace Gauge

section Totals

variable [AddCommMonoid M] (g : Gauge E T M)

/-- The weight of the records that satisfy `p`. -/
def total (p : E → Bool) (records : List E) : M := ((records.filter p).map g.weight).sum

@[simp] theorem total_nil (p : E → Bool) : g.total p [] = 0 := rfl

@[simp] theorem total_cons (p : E → Bool) (e : E) (records : List E) :
    g.total p (e :: records) = (if p e then g.weight e else 0) + g.total p records := by
  cases h : p e <;> simp [total, h]

@[simp] theorem total_append (p : E → Bool) (xs ys : List E) :
    g.total p (xs ++ ys) = g.total p xs + g.total p ys := by
  simp [total]

theorem total_congr {p q : E → Bool} {records : List E} (same : ∀ e ∈ records, p e = q e) :
    g.total p records = g.total q records := by
  rw [total, total, List.filter_congr same]

theorem total_filter {p q : E → Bool} {records : List E} (kept : ∀ e, p e → q e) :
    g.total p (records.filter q) = g.total p records := by
  rw [total, total, List.filter_filter]
  congr 2
  refine List.filter_congr fun e _ => ?_
  cases h : p e
  · rfl
  · simpa using kept e h

/-- The records that satisfy `p` weigh what those with and those without `q` do together. -/
theorem total_split (p q : E → Bool) (records : List E) :
    g.total p records =
      g.total (fun e => p e ∧ q e) records + g.total (fun e => p e ∧ ¬q e) records := by
  induction records with
  | nil => simp
  | cons e rest ih =>
    rw [total_cons, total_cons, total_cons, ih]
    cases p e <;> cases q e <;> simp [add_assoc, add_left_comm]

theorem total_le [PartialOrder M] [IsOrderedAddMonoid M] [CanonicallyOrderedAdd M]
    {p q : E → Bool} {records : List E} (sub : ∀ e ∈ records, p e → q e) :
    g.total p records ≤ g.total q records := by
  induction records with
  | nil => exact le_refl _
  | cons e rest ih =>
    rw [total_cons, total_cons]
    refine add_le_add ?_ (ih fun x hx => sub x (List.mem_cons_of_mem e hx))
    by_cases h : p e
    · rw [if_pos h, if_pos (sub e List.mem_cons_self h)]
    · rw [if_neg h]
      exact zero_le

theorem total_sublist [PartialOrder M] [IsOrderedAddMonoid M] [CanonicallyOrderedAdd M]
    (p : E → Bool) {some all : List E} (sub : some.Sublist all) :
    g.total p some ≤ g.total p all :=
  ((sub.filter p).map g.weight).sum_le_sum fun _ _ => zero_le

/-- Records that weigh one each are counted. -/
theorem total_eq_countP {g : Gauge E T Nat} {records : List E}
    (single : ∀ e ∈ records, g.weight e = 1) (p : E → Bool) :
    g.total p records = records.countP p := by
  induction records with
  | nil => rfl
  | cons e rest ih =>
    have rest := ih fun x mem => single x (List.mem_cons_of_mem e mem)
    rw [total_cons, rest, List.countP_cons, single e List.mem_cons_self, Nat.add_comm]

end Totals

section Order

variable [LinearOrder T] {g : Gauge E T M}

/-- The records are in the order they were made. -/
def Chronological (g : Gauge E T M) (records : List E) : Prop :=
  records.Pairwise fun older newer => g.time older ≤ g.time newer

theorem Chronological.prune {records : List E} (sorted : g.Chronological records)
    (p : E → Bool) : g.Chronological (records.filter p) :=
  sorted.sublist List.filter_sublist

theorem Chronological.snoc {records : List E} (sorted : g.Chronological records) {e : E}
    (latest : ∀ x ∈ records, g.time x ≤ g.time e) : g.Chronological (records ++ [e]) :=
  List.pairwise_append.mpr ⟨sorted, List.pairwise_singleton _ _, fun x hx y hy => by
    rw [List.mem_singleton.mp hy]
    exact latest x hx⟩

/-- `stored` keeps the very records of `history` made after `horizon`. -/
def Retains (g : Gauge E T M) (horizon : T) (stored history : List E) : Prop :=
  stored.filter (fun e => horizon < g.time e) = history.filter fun e => horizon < g.time e

theorem Retains.later {horizon later : T} {stored history : List E}
    (kept : g.Retains horizon stored history) (le : horizon ≤ later) :
    g.Retains later stored history := by
  have again : ∀ records : List E,
      (records.filter fun e => horizon < g.time e).filter (fun e => later < g.time e) =
        records.filter fun e => later < g.time e := by
    intro records
    rw [List.filter_filter]
    apply List.filter_congr
    intro e _
    by_cases late : later < g.time e
    · simp [late, le.trans_lt late]
    · simp [late]
  unfold Retains
  rw [← again stored, kept, again]

theorem Retains.prune {horizon : T} {stored history : List E}
    (kept : g.Retains horizon stored history) :
    g.Retains horizon (stored.filter fun e => horizon < g.time e) history := by
  unfold Retains at kept ⊢
  rw [List.filter_filter, ← kept]
  simp only [Bool.and_self]

theorem Retains.snoc {horizon : T} {stored history : List E}
    (kept : g.Retains horizon stored history) (e : E) :
    g.Retains horizon (stored ++ [e]) (history ++ [e]) := by
  unfold Retains
  rw [List.filter_append, List.filter_append, kept]

/-- What is counted among late records only is the same in both lists. -/
theorem Retains.total [AddCommMonoid M] {horizon : T} {stored history : List E}
    (kept : g.Retains horizon stored history) {p : E → Bool}
    (late : ∀ e, p e → horizon < g.time e) : g.total p stored = g.total p history := by
  have within : ∀ e, p e → decide (horizon < g.time e) := fun e he => decide_eq_true (late e he)
  rw [← total_filter g within, kept, total_filter g within]

end Order

section Windows

variable [AddCommMonoid M] [LinearOrder T] (g : Gauge E T M) (h : Gauge H T M)

/-- The weight recorded after `cutoff`. -/
def sumAfter (cutoff : T) (records : List E) : M :=
  g.total (fun e => cutoff < g.time e) records

/-- The weight recorded in `(lo, hi]`. -/
def windowSum (lo hi : T) (records : List E) : M :=
  g.total (fun e => lo < g.time e ∧ g.time e ≤ hi) records

/-- Walk back from the newest record and stop at the first one that is too old. -/
def sumBack (cutoff : T) : List E → M → M
  | [], acc => acc
  | e :: older, acc => if cutoff < g.time e then sumBack cutoff older (acc + g.weight e) else acc

theorem sumBack_eq {cutoff : T} {newestFirst : List E}
    (sorted : newestFirst.Pairwise fun newer older => g.time older ≤ g.time newer) (acc : M) :
    g.sumBack cutoff newestFirst acc = acc + g.sumAfter cutoff newestFirst := by
  induction newestFirst generalizing acc with
  | nil => simp [sumBack, sumAfter]
  | cons e older ih =>
    rw [List.pairwise_cons] at sorted
    by_cases fresh : cutoff < g.time e
    · simp [sumBack, sumAfter, fresh, ih sorted.2, add_assoc]
    · have stale : ∀ x ∈ older, ¬ cutoff < g.time x := fun x hx late =>
        fresh (late.trans_le (sorted.1 x hx))
      have rest : g.total (fun x => decide (cutoff < g.time x)) older = 0 := by
        rw [total, List.filter_eq_nil_iff.mpr (fun x hx => by simpa using stale x hx)]
        rfl
      simp [sumBack, sumAfter, fresh, rest]

theorem sumAfter_reverse (cutoff : T) (records : List E) :
    g.sumAfter cutoff records.reverse = g.sumAfter cutoff records := by
  simp only [sumAfter, total, List.filter_reverse, List.map_reverse, List.sum_reverse]

/-- The backward walk over a chronological list finds the whole weight after the cutoff. -/
theorem sumBack_reverse {cutoff : T} {records : List E} (sorted : g.Chronological records) :
    g.sumBack cutoff records.reverse 0 = g.sumAfter cutoff records := by
  rw [sumBack_eq g (List.pairwise_reverse.mpr sorted), zero_add, sumAfter_reverse]

theorem sumAfter_prune {cutoff horizon : T} (records : List E) (le : horizon ≤ cutoff) :
    g.sumAfter cutoff (records.filter fun e => horizon < g.time e) = g.sumAfter cutoff records :=
  total_filter g fun e late => by
    simp only [decide_eq_true_eq] at late ⊢
    exact le.trans_lt late

theorem windowSum_eq_sumAfter {lo hi : T} {records : List E} (past : ∀ e ∈ records, g.time e ≤ hi) :
    g.windowSum lo hi records = g.sumAfter lo records :=
  total_congr g fun e mem => by simp [past e mem]

/-- `stored` weighs what `history` does after every cutoff from `horizon` on. -/
def Represents (horizon : T) (stored : List E) (history : List H) : Prop :=
  ∀ cutoff, horizon ≤ cutoff → g.sumAfter cutoff stored = h.sumAfter cutoff history

variable {g h}

theorem Represents.later {horizon later : T} {stored : List E} {history : List H}
    (rep : Represents g h horizon stored history) (le : horizon ≤ later) :
    Represents g h later stored history :=
  fun cutoff hc => rep cutoff (le.trans hc)

theorem Represents.prune {horizon : T} {stored : List E} {history : List H}
    (rep : Represents g h horizon stored history) :
    Represents g h horizon (stored.filter fun e => horizon < g.time e) history :=
  fun cutoff hc => (g.sumAfter_prune stored hc).trans (rep cutoff hc)

theorem Represents.snoc {horizon : T} {stored : List E} {history : List H}
    (rep : Represents g h horizon stored history) {e : E} {x : H}
    (time : g.time e = h.time x) (weight : g.weight e = h.weight x) :
    Represents g h horizon (stored ++ [e]) (history ++ [x]) := by
  intro cutoff hc
  have before := rep cutoff hc
  simp only [sumAfter, total_append, total_cons, total_nil, time, weight] at before ⊢
  rw [before]

/-- Adding the new weight to the newest stored record counts as storing another one
when both were made at the same time. -/
theorem Represents.merge {horizon : T} {older : List E} {last merged e : E} {history : List H}
    (rep : Represents g h horizon (older ++ [last, e]) history)
    (same : g.time last = g.time e) (time : g.time merged = g.time last)
    (weight : g.weight merged = g.weight last + g.weight e) :
    Represents g h horizon (older ++ [merged]) history := by
  intro cutoff hc
  rw [← rep cutoff hc]
  simp only [sumAfter, total_append, total_cons, total_nil, time, weight, same]
  split <;> simp

variable [PartialOrder M] [IsOrderedAddMonoid M] [CanonicallyOrderedAdd M]

theorem sumAfter_antitone {lo hi : T} (records : List E) (le : lo ≤ hi) :
    g.sumAfter hi records ≤ g.sumAfter lo records :=
  total_le g fun e _ late => by
    simp only [decide_eq_true_eq] at late ⊢
    exact le.trans_lt late

theorem windowSum_le_sumAfter (lo hi : T) (records : List E) :
    g.windowSum lo hi records ≤ g.sumAfter lo records :=
  total_le g fun e _ inside => by
    simp only [decide_eq_true_eq] at inside ⊢
    exact inside.1

end Windows

section Bounds

variable [AddCommMonoid M] [PartialOrder M] [CanonicallyOrderedAdd M] [LinearOrder T] [AddGroup T]
  {g : Gauge E T M}

/-- Every window of length `width` weighs at most `limit`. -/
def Bounded (g : Gauge E T M) (width : T) (limit : M) (history : List E) : Prop :=
  ∀ t, g.windowSum (t - width) t history ≤ limit

theorem Bounded.nil (width : T) (limit : M) : g.Bounded width limit [] :=
  fun _ => zero_le

variable [IsOrderedAddMonoid M] [AddRightMono T]

/-- Admitting a record for which the history leaves room keeps every window bounded:
a window that holds the record ends no earlier than it and so starts no earlier
than the window that ends with it. -/
theorem Bounded.snoc {width : T} {limit : M} {history : List E} {e : E}
    (bounded : g.Bounded width limit history)
    (room : g.sumAfter (g.time e - width) history + g.weight e ≤ limit) :
    g.Bounded width limit (history ++ [e]) := by
  intro t
  simp only [windowSum, total_append, total_cons, total_nil, add_zero, decide_eq_true_eq]
  by_cases inside : t - width < g.time e ∧ g.time e ≤ t
  · rw [if_pos inside]
    refine le_trans (add_le_add_left ?_ _) room
    exact (windowSum_le_sumAfter _ _ _).trans
      (sumAfter_antitone history (sub_le_sub_right inside.2 width))
  · rw [if_neg inside, add_zero]
    exact bounded t

end Bounds

end Gauge

end SlidingWindow
