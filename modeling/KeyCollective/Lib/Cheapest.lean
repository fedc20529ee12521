import Mathlib.Data.List.Sort
import Mathlib.Order.Defs.LinearOrder

/-!
# The first of the cheapest

Of the elements that qualify, a scan keeps the first one of the lowest cost. A stable sort by
cost puts the same element first.
-/

namespace Cheapest

variable {V C : Type} [LinearOrder C] (cost : V → C) (p : V → Prop) [DecidablePred p]

/-- One round of the scan. -/
def keep (best : Option V) (v : V) : Option V :=
  if p v then
    match best with
    | none => some v
    | some cheapest => if cost v < cost cheapest then some v else best
  else best

def scan (l : List V) : Option V := l.foldl (keep cost p) none

/-- The earlier element, unless the later one is cheaper. -/
def earlier (v : V) (later : Option V) : V :=
  match later with
  | none => v
  | some w => if cost w < cost v then w else v

theorem earlier_assoc (u v : V) (later : Option V) :
    earlier cost (if cost v < cost u then v else u) later =
      earlier cost u (some (earlier cost v later)) := by
  cases later with
  | none => by_cases vu : cost v < cost u <;> simp [earlier, vu]
  | some w =>
    unfold earlier
    by_cases wv : cost w < cost v
    · by_cases vu : cost v < cost u
      · simp [wv, vu, wv.trans vu]
      · simp [wv, vu]
    · by_cases vu : cost v < cost u
      · simp [wv, vu]
      · have wu : ¬cost w < cost u := fun lt => wv (lt.trans_le (not_lt.mp vu))
        simp [wv, vu, wu]

theorem foldl_some (l : List V) (v : V) :
    l.foldl (keep cost p) (some v) = some (earlier cost v (scan cost p l)) := by
  induction l generalizing v with
  | nil => rfl
  | cons w rest ih =>
    rw [scan, List.foldl_cons, List.foldl_cons]
    by_cases qualifies : p w
    · have first : keep cost p (some v) w = some (if cost w < cost v then w else v) := by
        simp only [keep, qualifies, if_true]
        split_ifs <;> rfl
      have alone : keep cost p none w = some w := by simp only [keep, qualifies, if_true]
      rw [first, alone, ih, ih, earlier_assoc]
    · have first : keep cost p (some v) w = some v := by simp only [keep, qualifies, if_false]
      have alone : keep cost p none w = none := by simp only [keep, qualifies, if_false]
      rw [first, alone, ih]
      rfl

theorem scan_cons (v : V) (rest : List V) :
    scan cost p (v :: rest) =
      if p v then some (earlier cost v (scan cost p rest)) else scan cost p rest := by
  rw [scan, List.foldl_cons]
  by_cases qualifies : p v
  · have alone : keep cost p none v = some v := by simp only [keep, qualifies, if_true]
    rw [alone, foldl_some, if_pos qualifies]
  · have alone : keep cost p none v = none := by simp only [keep, qualifies, if_false]
    rw [alone, if_neg qualifies]
    rfl

theorem scan_mem {l : List V} {v : V} (kept : scan cost p l = some v) : v ∈ l ∧ p v := by
  induction l generalizing v with
  | nil => cases kept
  | cons w rest ih =>
    rw [scan_cons] at kept
    by_cases qualifies : p w
    · rw [if_pos qualifies] at kept
      cases later : scan cost p rest with
      | none =>
        rw [later] at kept
        obtain rfl := Option.some.inj kept
        exact ⟨List.mem_cons_self, qualifies⟩
      | some u =>
        obtain ⟨in_rest, holds⟩ := ih later
        rw [later, earlier] at kept
        split at kept
        · obtain rfl := Option.some.inj kept
          exact ⟨List.mem_cons_of_mem w in_rest, holds⟩
        · obtain rfl := Option.some.inj kept
          exact ⟨List.mem_cons_self, qualifies⟩
    · rw [if_neg qualifies] at kept
      obtain ⟨in_rest, holds⟩ := ih kept
      exact ⟨List.mem_cons_of_mem w in_rest, holds⟩

theorem scan_eq_none_iff (l : List V) : scan cost p l = none ↔ ∀ v ∈ l, ¬p v := by
  induction l with
  | nil => simp [scan]
  | cons v rest ih =>
    rw [scan_cons]
    by_cases qualifies : p v <;> simp [qualifies, ih]

theorem scan_filter (q : V → Prop) [DecidablePred q] (l : List V) :
    scan cost p (l.filter (q ·)) = scan cost (fun v => q v ∧ p v) l := by
  induction l with
  | nil => rfl
  | cons v rest ih =>
    rw [scan_cons cost (fun v => q v ∧ p v)]
    by_cases kept : q v
    · rw [List.filter_cons_of_pos (by simpa using kept), scan_cons, ih]
      simp [kept]
    · rw [List.filter_cons_of_neg (by simpa using kept), ih]
      simp [kept]

theorem scan_map {U : Type} (f : U → V) (l : List U) :
    scan cost p (l.map f) = (scan (cost ∘ f) (fun u => p (f u)) l).map f := by
  induction l with
  | nil => rfl
  | cons u rest ih =>
    rw [List.map_cons, scan_cons, scan_cons, ih]
    by_cases qualifies : p (f u)
    · rw [if_pos qualifies, if_pos qualifies, Option.map_some]
      congr 1
      cases scan (cost ∘ f) (fun u => p (f u)) rest with
      | none => rfl
      | some w => by_cases cheaper : cost (f w) < cost (f u) <;> simp [earlier, cheaper]
    · rw [if_neg qualifies, if_neg qualifies]

theorem find?_orderedInsert (v : V) {l : List V} (sorted : l.Pairwise (cost · ≤ cost ·)) :
    (l.orderedInsert (cost · ≤ cost ·) v).find? (p ·) =
      if p v then some (earlier cost v (l.find? (p ·))) else l.find? (p ·) := by
  induction l with
  | nil => by_cases qualifies : p v <;> simp [qualifies, earlier]
  | cons w rest ih =>
    rw [List.orderedInsert_cons]
    by_cases le : cost v ≤ cost w
    · rw [if_pos le]
      by_cases qualifies : p v
      · have least : ∀ u ∈ w :: rest, cost v ≤ cost u := by
          intro u mem
          rcases List.mem_cons.mp mem with rfl | mem
          · exact le
          · exact le.trans (List.rel_of_pairwise_cons sorted mem)
        cases found : (w :: rest).find? (p ·) with
        | none => simp [qualifies, earlier]
        | some u =>
          have not_cheaper := not_lt.mpr (least u (List.mem_of_find?_eq_some found))
          simp [qualifies, earlier, not_cheaper]
      · simp [qualifies]
    · rw [if_neg le]
      have cheaper : cost w < cost v := not_le.mp le
      by_cases holds : p w
      · by_cases qualifies : p v <;> simp [holds, qualifies, earlier, cheaper]
      · rw [List.find?_cons_of_neg (by simpa using holds),
          List.find?_cons_of_neg (by simpa using holds)]
        exact ih sorted.of_cons

/-- **Sorted by cost, the first that qualifies is the one the scan keeps.** -/
theorem find?_insertionSort (l : List V) :
    (l.insertionSort (cost · ≤ cost ·)).find? (p ·) = scan cost p l := by
  have : Std.Total (fun v w : V => cost v ≤ cost w) := ⟨fun v w => le_total (cost v) (cost w)⟩
  have : IsTrans V (fun v w => cost v ≤ cost w) := ⟨fun _ _ _ => le_trans⟩
  induction l with
  | nil => rfl
  | cons v rest ih =>
    rw [List.insertionSort_cons, find?_orderedInsert cost p v (List.pairwise_insertionSort _ rest),
      ih, scan_cons]

/-- No element is cheaper, and none before it is as cheap. -/
def IsFirst (l : List V) (v : V) : Prop :=
  ∃ before after, l = before ++ v :: after ∧ (∀ u ∈ before, cost v < cost u) ∧
    ∀ u ∈ after, cost v ≤ cost u

variable {cost} {l : List V} {v : V}

theorem IsFirst.singleton (v : V) : IsFirst cost [v] v :=
  ⟨[], [], rfl, fun _ mem => absurd mem List.not_mem_nil, fun _ mem => absurd mem List.not_mem_nil⟩

theorem IsFirst.mem (first : IsFirst cost l v) : v ∈ l := by
  obtain ⟨before, after, rfl, -⟩ := first
  exact List.mem_append_right before List.mem_cons_self

theorem IsFirst.le (first : IsFirst cost l v) {u : V} (mem : u ∈ l) : cost v ≤ cost u := by
  obtain ⟨before, after, rfl, above, least⟩ := first
  rcases List.mem_append.mp mem with earlier | later
  · exact (above u earlier).le
  · rcases List.mem_cons.mp later with rfl | later
    · exact le_rfl
    · exact least u later

/-- One more element is kept only when it is cheaper. -/
theorem IsFirst.snoc (first : IsFirst cost l v) (w : V) :
    IsFirst cost (l ++ [w]) (if cost w < cost v then w else v) := by
  by_cases cheaper : cost w < cost v
  · rw [if_pos cheaper]
    exact ⟨l, [], rfl, fun u mem => cheaper.trans_le (first.le mem), fun _ mem =>
      absurd mem List.not_mem_nil⟩
  · rw [if_neg cheaper]
    obtain ⟨before, after, rfl, above, least⟩ := first
    refine ⟨before, after ++ [w], by simp, above, fun u mem => ?_⟩
    rcases List.mem_append.mp mem with later | last
    · exact least u later
    · rw [List.mem_singleton.mp last]
      exact not_lt.mp cheaper

theorem IsFirst.unique {w : V} (first : IsFirst cost l v) (other : IsFirst cost l w) : v = w := by
  have equal : cost v = cost w := (first.le other.mem).antisymm (other.le first.mem)
  obtain ⟨before, after, rfl, above, -⟩ := first
  obtain ⟨before', after', same, above', -⟩ := other
  rcases List.append_eq_append_iff.mp same with ⟨between, rfl, rest⟩ | ⟨between, rfl, rest⟩
  · cases between with
    | nil => exact (List.cons.inj rest).1
    | cons u between =>
      have earlier := above' u (List.mem_append_right before List.mem_cons_self)
      rw [← (List.cons.inj rest).1, equal] at earlier
      exact absurd earlier (lt_irrefl _)
  · cases between with
    | nil => exact (List.cons.inj rest).1.symm
    | cons u between =>
      have earlier := above u (List.mem_append_right before' List.mem_cons_self)
      rw [← (List.cons.inj rest).1, equal] at earlier
      exact absurd earlier (lt_irrefl _)

end Cheapest
