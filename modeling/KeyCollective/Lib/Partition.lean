import Mathlib.Data.List.Nodup
import Mathlib.Data.List.Perm.Basic

/-!
# Parts of a list

Elements of one kind form a part. The parts are disjoint, keep the order of the list, and are
the list together when its kinds are all there.
-/

namespace Partition

variable {α β ι : Type} [DecidableEq ι] (kind : α → ι)

def part (l : List α) (i : ι) : List α := l.filter fun a => kind a = i

variable {kind} {l : List α}

theorem mem_part {i : ι} {a : α} : a ∈ part kind l i ↔ a ∈ l ∧ kind a = i := by
  simp [part]

theorem part_sublist (i : ι) : (part kind l i).Sublist l := List.filter_sublist

theorem disjoint_part {i j : ι} (other : i ≠ j) :
    List.Disjoint (part kind l i) (part kind l j) := by
  intro a first second
  exact other ((mem_part.mp first).2.symm.trans (mem_part.mp second).2)

theorem pairwise_disjoint {kinds : List ι} (distinct : kinds.Nodup) :
    (kinds.map (part kind l)).Pairwise List.Disjoint :=
  List.pairwise_map.mpr (distinct.imp disjoint_part)

/-- A part of the elements of other kinds is a part of them all. -/
theorem part_filter_ne {i j : ι} (other : j ≠ i) :
    part kind (l.filter fun a => kind a ≠ i) j = part kind l j := by
  rw [part, part, List.filter_filter]
  refine List.filter_congr fun a _ => ?_
  by_cases same : kind a = j
  · simp [same, other]
  · simp [same]

theorem perm_parts {kinds : List ι} (distinct : kinds.Nodup) (covered : ∀ a ∈ l, kind a ∈ kinds) :
    (kinds.flatMap (part kind l)).Perm l := by
  induction kinds generalizing l with
  | nil =>
    have empty : l = [] := List.eq_nil_iff_forall_not_mem.mpr fun a mem =>
      absurd (covered a mem) List.not_mem_nil
    rw [empty]
    exact .nil
  | cons i rest ih =>
    have apart := (List.nodup_cons.mp distinct).1
    have others : (rest.flatMap (part kind (l.filter fun a => kind a ≠ i))) =
        rest.flatMap (part kind l) := by
      refine List.flatMap_congr fun j mem => part_filter_ne ?_
      rintro rfl
      exact apart mem
    have later : ∀ a ∈ l.filter fun a => kind a ≠ i, kind a ∈ rest := by
      intro a mem
      obtain ⟨present, different⟩ := List.mem_filter.mp mem
      exact (List.mem_cons.mp (covered a present)).resolve_left (of_decide_eq_true different)
    have split := ih (List.nodup_cons.mp distinct).2 later
    rw [others] at split
    rw [List.flatMap_cons]
    refine (split.append_left _).trans ?_
    simpa [part] using List.filter_append_perm (fun a => decide (kind a = i)) l

omit [DecidableEq ι] in
/-- Items that name the elements they are made of. -/
theorem map_filterMap_named {item : α → Option β} {name : β → α}
    (named : ∀ a b, item a = some b → name b = a) :
    (l.filterMap item).map name = l.filter fun a => (item a).isSome := by
  induction l with
  | nil => rfl
  | cons a rest ih =>
    cases made : item a with
    | none => rw [List.filterMap_cons_none made, ih, List.filter_cons_of_neg (by simp [made])]
    | some b =>
      rw [List.filterMap_cons_some made, List.map_cons, ih, named a b made,
        List.filter_cons_of_pos (by simp [made])]

end Partition
