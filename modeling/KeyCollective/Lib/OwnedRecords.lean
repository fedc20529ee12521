import KeyCollective.Lib.IndexedMap

/-!
# Records and their owners

What an owner has in a map of keyed records. Setting or deleting a record of another leaves it
alone, and its order.
-/

namespace IndexedMap

variable {V K O : Type} [DecidableEq K] [DecidableEq O] {key : V → K} (owner : V → O)

/-- The records of an owner, in order. -/
def ownedBy (m : IndexedMap key) (o : O) : List V := m.values.filter fun v => owner v = o

variable {owner} {m : IndexedMap key} {v : V} {o : O}

omit [DecidableEq K] in
theorem mem_ownedBy : v ∈ m.ownedBy owner o ↔ v ∈ m.values ∧ owner v = o := by
  rw [ownedBy, List.mem_filter, decide_eq_true_eq]

theorem filter_put_other {l : List V} (other : owner v ≠ o)
    (replaced : ∀ old ∈ l, key old = key v → owner old ≠ o) :
    (put key v l).filter (fun v => owner v = o) = l.filter fun v => owner v = o := by
  induction l with
  | nil => simp [put, other]
  | cons old rest ih =>
    have later := ih fun old mem => replaced old (List.mem_cons_of_mem _ mem)
    by_cases same : key old = key v
    · have gone := replaced old List.mem_cons_self same
      simp [put, same, other, gone]
    · simp only [put, same, ↓reduceIte, List.filter_cons, later]

/-- A record of another, in the place of another's or of none. -/
theorem ownedBy_set_other (other : owner v ≠ o)
    (replaced : ∀ old, m.get? (key v) = some old → owner old ≠ o) :
    (m.set v).ownedBy owner o = m.ownedBy owner o := by
  apply filter_put_other other
  intro old mem same
  apply replaced old
  rw [← same]
  exact get?_of_mem mem

theorem ownedBy_delete_other {k : K} (gone : ∀ old, m.get? k = some old → owner old ≠ o) :
    (m.delete k).ownedBy owner o = m.ownedBy owner o := by
  change (m.values.filter _).filter _ = m.values.filter _
  rw [List.filter_filter]
  apply List.filter_congr
  intro old mem
  by_cases same : key old = k
  · subst same
    simp [gone old (get?_of_mem mem)]
  · simp [same]

end IndexedMap
