import Mathlib

/-!
# Turns of a wrapping counter

A counter kept below a bound gives out turns among `n` places, by its remainder. As many
turns in a row as there are places reach each place once, unless the counter wraps among
them and the bound is no multiple of `n`.
-/

namespace Wraparound

/-- The places of `turns` turns in a row, from the counter `c` on. -/
def places (bound n : Nat) : Nat → Nat → List Nat
  | 0, _ => []
  | turns + 1, c => c % n :: places bound n turns ((c + 1) % bound)

variable {bound n c : Nat}

@[simp] theorem length_places (turns c : Nat) : (places bound n turns c).length = turns := by
  induction turns generalizing c with
  | zero => rfl
  | succ turns ih => rw [places, List.length_cons, ih]

theorem places_lt (pos : 0 < n) (turns c : Nat) : ∀ i ∈ places bound n turns c, i < n := by
  induction turns generalizing c with
  | zero =>
    intro i mem
    cases mem
  | succ turns ih =>
    intro i mem
    rcases List.mem_cons.mp mem with rfl | later
    · exact Nat.mod_lt c pos
    · exact ih _ i later

theorem places_eq (start : c < bound) (turns : Nat) :
    places bound n turns c = (List.range turns).map fun j => (c + j) % bound % n := by
  induction turns generalizing c with
  | zero => rfl
  | succ turns ih =>
    have first : (c + 0) % bound % n = c % n := by rw [Nat.add_zero, Nat.mod_eq_of_lt start]
    rw [places, List.range_succ_eq_map, List.map_cons, List.map_map, first,
      ih (Nat.mod_lt _ (by omega))]
    congr 1
    apply List.map_congr_left
    intro j _
    have shift : c + 1 + j = c + (j + 1) := by omega
    simp only [Function.comp_apply, Nat.mod_add_mod, shift]

/-- No two turns short of `n` apart share a place, when none of them wraps or wrapping
keeps the remainder. -/
theorem places_nodup (start : c < bound) (fair : c + n ≤ bound ∨ n ∣ bound) :
    (places bound n n c).Nodup := by
  have place : ∀ j, j < n → (c + j) % bound % n = (c + j) % n := by
    intro j less
    rcases fair with within | divides
    · have small : c + j < bound := by omega
      rw [Nat.mod_eq_of_lt small]
    · exact Nat.mod_mod_of_dvd _ divides
  rw [places_eq start]
  refine List.Nodup.map_on ?_ List.nodup_range
  intro i less j less' same
  rw [List.mem_range] at less less'
  rw [place i less, place j less'] at same
  exact Nat.ModEq.eq_of_lt_of_lt (Nat.ModEq.add_left_cancel' c same) less less'

/-- When the counter wraps in between and the bound leaves a remainder, the turn that is
short of the bound by it, or the first one, shares its place with one after the wrap. -/
theorem fair_of_nodup (start : c < bound) (nodup : (places bound n n c).Nodup) :
    c + n ≤ bound ∨ n ∣ bound := by
  by_contra unfair
  obtain ⟨wraps, leaves⟩ := not_or.mp unfair
  have pos : 0 < n := by omega
  have remains : 0 < bound % n := Nat.pos_of_ne_zero fun zero => leaves (Nat.dvd_of_mod_eq_zero zero)
  have short := Nat.mod_lt bound pos
  have parts := Nat.div_add_mod bound n
  rw [places_eq start] at nodup
  have distinct := List.inj_on_of_nodup_map nodup
  generalize bound % n = r at remains short parts
  by_cases before : r ≤ bound - c
  · -- The turn at `bound - r` and the one at zero.
    have first : (c + (bound - c - r)) % bound % n = 0 := by
      have whole : c + (bound - c - r) = n * (bound / n) := by omega
      have small : n * (bound / n) < bound := by omega
      rw [whole, Nat.mod_eq_of_lt small, Nat.mul_mod_right]
    have second : (c + (bound - c)) % bound % n = 0 := by
      rw [show c + (bound - c) = bound by omega, Nat.mod_self, Nat.zero_mod]
    have same := distinct (List.mem_range.mpr (by omega)) (List.mem_range.mpr (by omega))
      (first.trans second.symm)
    omega
  · -- The first turn, and the one whose counter is the first one's remainder.
    have first : (c + 0) % bound % n = r - (bound - c) := by
      have whole : c % n = (n * (bound / n) + (r - (bound - c))) % n := by
        congr 1
        omega
      have small : r - (bound - c) < n := by omega
      rw [Nat.add_zero, Nat.mod_eq_of_lt start, whole, Nat.mul_add_mod, Nat.mod_eq_of_lt small]
    have second : (c + r) % bound % n = r - (bound - c) := by
      have past : c + r = bound + (r - (bound - c)) := by omega
      have small : r - (bound - c) < bound := by omega
      have place : r - (bound - c) < n := by omega
      rw [past, Nat.add_mod_left, Nat.mod_eq_of_lt small, Nat.mod_eq_of_lt place]
    have same := distinct (List.mem_range.mpr pos) (List.mem_range.mpr short)
      (first.trans second.symm)
    omega

theorem places_perm (pos : 0 < n) (nodup : (places bound n n c).Nodup) :
    (places bound n n c).Perm (List.range n) := by
  have within : places bound n n c ⊆ List.range n := fun i mem =>
    List.mem_range.mpr (places_lt pos n c i mem)
  exact (nodup.subperm within).perm_of_length_le (by simp)

/-! ## Places of a list -/

variable {α : Type} {items : List α}

theorem place_lt (nonempty : items ≠ []) (i : Nat) : i % items.length < items.length :=
  Nat.mod_lt i (List.length_pos_of_ne_nil nonempty)

/-- The item at a place, counted round the list. -/
def item (items : List α) (nonempty : items ≠ []) (i : Nat) : α :=
  items.get ⟨i % items.length, place_lt nonempty i⟩

theorem map_item_range (nonempty : items ≠ []) :
    (List.range items.length).map (item items nonempty) = items := by
  apply List.ext_getElem
  · simp
  · intro i less _
    rw [List.length_map, List.length_range] at less
    simp [item, Nat.mod_eq_of_lt less]

/-- As many turns as there are items name each of them once exactly when the counter does
not wrap in between or the bound is a multiple of their number. -/
theorem items_perm_iff (distinct : items.Nodup) (nonempty : items ≠ []) (start : c < bound) :
    ((places bound items.length items.length c).map (item items nonempty)).Perm items ↔
      c + items.length ≤ bound ∨ items.length ∣ bound := by
  constructor
  · intro perm
    exact fair_of_nodup start (List.Nodup.of_map _ (perm.nodup_iff.mpr distinct))
  · intro fair
    have perm := places_perm (List.length_pos_of_ne_nil nonempty) (places_nodup start fair)
    have mapped := perm.map (item items nonempty)
    rwa [map_item_range] at mapped

end Wraparound
