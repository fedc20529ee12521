import Mathlib.Algebra.BigOperators.Group.List.Lemmas
import Mathlib.Algebra.Order.BigOperators.Group.List
import Mathlib.Data.List.Dedup

/-!
# Totals by key

What the records of each key add up to, and the keys that have records.
-/

namespace Aggregate

variable {E K M : Type} [DecidableEq K] [AddCommMonoid M] {key : E → K} {measure : E → M}
  {records : List E} {k : K}

def total (key : E → K) (measure : E → M) (records : List E) (k : K) : M :=
  (records.map fun record => if key record = k then measure record else 0).sum

/-- Keys of the records, each once. -/
def groups (key : E → K) (records : List E) : List K := (records.map key).dedup

theorem mem_groups : k ∈ groups key records ↔ ∃ record ∈ records, key record = k := by
  rw [groups, List.mem_dedup, List.mem_map]

theorem nodup_groups (key : E → K) (records : List E) : (groups key records).Nodup :=
  List.nodup_dedup _

/-- A key without records has nothing. -/
theorem total_absent (absent : ∀ record ∈ records, key record ≠ k) :
    total key measure records k = 0 := by
  refine List.sum_eq_zero fun amount mem => ?_
  obtain ⟨record, stored, rfl⟩ := List.mem_map.mp mem
  exact if_neg (absent record stored)

theorem total_congr {other : E → M} (same : ∀ record ∈ records, measure record = other record) :
    total key measure records k = total key other records k := by
  unfold total
  congr 1
  exact List.map_congr_left fun record mem => by rw [same record mem]

/-- A record is part of the total of its key. -/
theorem le_total [PartialOrder M] [IsOrderedAddMonoid M] {record : E} (mem : record ∈ records)
    (nonneg : ∀ record ∈ records, 0 ≤ measure record) :
    measure record ≤ total key measure records (key record) := by
  have part : measure record ∈
      records.map fun other => if key other = key record then measure other else 0 :=
    List.mem_map.mpr ⟨record, mem, if_pos rfl⟩
  refine List.single_le_sum ?_ _ part
  intro amount added
  obtain ⟨other, stored, rfl⟩ := List.mem_map.mp added
  split
  · exact nonneg other stored
  · exact le_rfl

/-- The records of a key may be singled out in two steps, by a condition and a coarser key. -/
theorem total_filter {L : Type} [DecidableEq L] {other : E → L} {l : L} {keep : E → Bool}
    (same : ∀ record, key record = k ↔ keep record = true ∧ other record = l) :
    total other measure (records.filter keep) l = total key measure records k := by
  induction records with
  | nil => rfl
  | cons record rest ih =>
    simp only [total, List.map_cons, List.sum_cons] at ih ⊢
    cases keeps : keep record with
    | true =>
      have keyed : key record = k ↔ other record = l := by simp [same, keeps]
      rw [List.filter_cons_of_pos keeps, List.map_cons, List.sum_cons, ih]
      simp only [keyed]
    | false =>
      have absent : key record ≠ k := by simp [same, keeps]
      rw [List.filter_cons_of_neg (by simp [keeps]), ih, if_neg absent, zero_add]

theorem map_total {N : Type} [AddCommMonoid N] (f : M →+ N) :
    f (total key measure records k) = total key (fun record => f (measure record)) records k := by
  unfold total
  rw [map_list_sum, List.map_map]
  congr 2
  funext record
  simp only [Function.comp_apply]
  split
  · rfl
  · exact map_zero f

end Aggregate
