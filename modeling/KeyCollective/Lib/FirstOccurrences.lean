import Mathlib.Data.List.Nodup

/-!
# First occurrences

A list is built by adding elements one at a time, each unless an element with its key is
there already. What results has every key once, at its first occurrence.
-/

namespace FirstOccurrences

variable {V K : Type} [DecidableEq K] (key : V → K)

/-- Add an element unless its key is there. -/
def push (l : List V) (v : V) : List V := if key v ∈ l.map key then l else l ++ [v]

def pushAll (l vs : List V) : List V := vs.foldl (push key) l

def firsts (vs : List V) : List V := pushAll key [] vs

variable {key} {l vs : List V} {v w : V}

theorem push_nodup (nodup : (l.map key).Nodup) : ((push key l v).map key).Nodup := by
  unfold push
  split
  case isTrue => exact nodup
  case isFalse new =>
    rw [List.map_append]
    refine nodup.append (List.nodup_singleton _) ?_
    intro k old mem
    rw [List.map_singleton, List.mem_singleton] at mem
    exact new (mem ▸ old)

theorem pushAll_nodup (nodup : (l.map key).Nodup) : ((pushAll key l vs).map key).Nodup := by
  induction vs generalizing l with
  | nil => exact nodup
  | cons v rest ih => exact ih (push_nodup nodup)

theorem firsts_nodup (vs : List V) : ((firsts key vs).map key).Nodup :=
  pushAll_nodup List.nodup_nil

theorem pushAll_append (l vs ws : List V) :
    pushAll key l (vs ++ ws) = pushAll key (pushAll key l vs) ws :=
  List.foldl_append

variable (key) in
/-- What is added stands behind what was there, in its own order. -/
theorem pushAll_added (l vs : List V) :
    ∃ added, pushAll key l vs = l ++ added ∧ added.Sublist vs := by
  induction vs generalizing l with
  | nil => exact ⟨[], (List.append_nil l).symm, List.Sublist.refl _⟩
  | cons v rest ih =>
    obtain ⟨added, eq, sub⟩ := ih (push key l v)
    rw [pushAll, List.foldl_cons, ← pushAll, eq]
    unfold push
    split
    case isTrue => exact ⟨added, rfl, sub.cons v⟩
    case isFalse => exact ⟨v :: added, List.append_assoc _ _ _, sub.cons_cons v⟩

theorem mem_pushAll (mem : w ∈ pushAll key l vs) : w ∈ l ∨ w ∈ vs := by
  obtain ⟨added, eq, sub⟩ := pushAll_added key l vs
  rw [eq] at mem
  exact (List.mem_append.mp mem).imp_right fun new => sub.subset new

theorem mem_keys_pushAll (l vs : List V) (k : K) :
    k ∈ (pushAll key l vs).map key ↔ k ∈ l.map key ∨ k ∈ vs.map key := by
  induction vs generalizing l with
  | nil => simp [pushAll]
  | cons v rest ih =>
    have one : k ∈ (push key l v).map key ↔ k ∈ l.map key ∨ k = key v := by
      unfold push
      split
      case isTrue present =>
        constructor
        · exact Or.inl
        · rintro (old | rfl)
          · exact old
          · exact present
      case isFalse => simp
    rw [pushAll, List.foldl_cons, ← pushAll, ih, one, List.map_cons, List.mem_cons, or_assoc]

theorem mem_keys_firsts (vs : List V) (k : K) : k ∈ (firsts key vs).map key ↔ k ∈ vs.map key := by
  rw [firsts, mem_keys_pushAll, List.map_nil]
  exact or_iff_right List.not_mem_nil

theorem mem_of_firsts (mem : v ∈ firsts key vs) : v ∈ vs :=
  (mem_pushAll mem).resolve_left List.not_mem_nil

/-- An element is kept where no other has its key. -/
theorem mem_firsts (mem : v ∈ vs) (alone : ∀ w ∈ vs, key w = key v → w = v) :
    v ∈ firsts key vs := by
  obtain ⟨w, kept, same⟩ :=
    List.mem_map.mp ((mem_keys_firsts vs (key v)).mpr (List.mem_map_of_mem mem))
  rw [← alone w (mem_of_firsts kept) same]
  exact kept

/-- A list without repetitions is its own first occurrences. -/
theorem pushAll_new (distinct : ((l ++ vs).map key).Nodup) : pushAll key l vs = l ++ vs := by
  induction vs generalizing l with
  | nil => exact (List.append_nil l).symm
  | cons v rest ih =>
    have new : key v ∉ l.map key := by
      intro old
      rw [List.map_append] at distinct
      exact (List.nodup_append.mp distinct).2.2 _ old _ List.mem_cons_self rfl
    have grown : l ++ v :: rest = (l ++ [v]) ++ rest := by simp
    rw [pushAll, List.foldl_cons, ← pushAll, push, if_neg new, grown]
    exact ih (grown ▸ distinct)

theorem firsts_eq_self (distinct : (vs.map key).Nodup) : firsts key vs = vs :=
  pushAll_new distinct

end FirstOccurrences
