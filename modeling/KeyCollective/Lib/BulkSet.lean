import KeyCollective.Lib.FirstOccurrences
import KeyCollective.Lib.IndexedMap

/-!
# Setting a list of records

What a map holds after a list of records was set one at a time: every key keeps the place it
was first set at, and the record it was last set to.
-/

namespace IndexedMap

variable {V K : Type} [DecidableEq K] {key : V → K}

variable (key) in
/-- The last record with a key. -/
def latest (vs : List V) (k : K) : Option V := vs.reverse.find? fun v => key v = k

theorem latest_cons (v : V) (rest : List V) (k : K) :
    latest key (v :: rest) k = (latest key rest k).or (if key v = k then some v else none) := by
  rw [latest, List.reverse_cons, List.find?_append, ← latest, List.find?_singleton]
  simp only [decide_eq_true_eq]

theorem exists_latest {vs : List V} {v : V} (mem : v ∈ vs) :
    ∃ last, latest key vs (key v) = some last := by
  rw [← Option.isSome_iff_exists, latest, List.find?_isSome]
  exact ⟨v, List.mem_reverse.mpr mem, decide_eq_true rfl⟩

theorem mem_of_latest {vs : List V} {k : K} {v : V} (last : latest key vs k = some v) :
    v ∈ vs ∧ key v = k :=
  ⟨List.mem_reverse.mp (List.mem_of_find?_eq_some last), by simpa using List.find?_some last⟩

theorem get?_setAll_latest (m : IndexedMap key) (vs : List V) (k : K) :
    (m.setAll vs).get? k = (latest key vs k).or (m.get? k) := by
  induction vs generalizing m with
  | nil => rfl
  | cons v rest ih =>
    rw [setAll_cons, ih, get?_set, latest_cons, Option.or_assoc]
    congr 1
    split <;> rfl

theorem keys_put (v : V) (l : List V) :
    (put key v l).map key = FirstOccurrences.push id (l.map key) (key v) := by
  induction l with
  | nil => rfl
  | cons w rest ih =>
    by_cases same : key w = key v
    · simp [put, FirstOccurrences.push, same]
    · have other : key v ≠ key w := fun eq => same eq.symm
      rw [put, if_neg same, List.map_cons, ih]
      simp only [FirstOccurrences.push, List.map_id, List.map_cons, List.mem_cons, other, false_or,
        id]
      split <;> rfl

theorem keys_setAll (m : IndexedMap key) (vs : List V) :
    (m.setAll vs).keys = FirstOccurrences.pushAll id m.keys (vs.map key) := by
  induction vs generalizing m with
  | nil => rfl
  | cons v rest ih =>
    have pushed : (m.set v).keys = FirstOccurrences.push id m.keys (key v) := keys_put v m.values
    rw [setAll_cons, ih, pushed]
    rfl

theorem values_eq (m : IndexedMap key) : m.values = m.keys.filterMap m.get? := by
  have found : ∀ vs : List V, (∀ v ∈ vs, m.get? (key v) = some v) →
      (vs.map key).filterMap m.get? = vs := by
    intro vs all
    induction vs with
    | nil => rfl
    | cons v rest ih =>
      rw [List.map_cons, List.filterMap_cons, all v List.mem_cons_self]
      exact congrArg (v :: ·) (ih fun w mem => all w (List.mem_cons_of_mem v mem))
  exact (found m.values fun v mem => get?_of_mem mem).symm

/-- A map is its keys, in order, and what each of them finds. -/
theorem ext_keys {m n : IndexedMap key} (keys : m.keys = n.keys)
    (found : ∀ k, m.get? k = n.get? k) : m = n := by
  have values : m.values = n.values := by
    rw [values_eq m, values_eq n, keys, funext found]
  cases m
  cases n
  cases values
  rfl

/-- Setting the records of `added` over `base` leaves `held`. -/
structure Absorbs (base : IndexedMap key) (added : List V) (held : IndexedMap key) : Prop where
  keys : held.keys = FirstOccurrences.pushAll id base.keys (added.map key)
  found : ∀ k, held.get? k = (latest key added k).or (base.get? k)

theorem setAll_eq_iff {base : IndexedMap key} {added : List V} {held : IndexedMap key} :
    base.setAll added = held ↔ Absorbs base added held := by
  constructor
  · rintro rfl
    exact ⟨keys_setAll base added, get?_setAll_latest base added⟩
  · intro absorbs
    refine ext_keys ?_ fun k => ?_
    · rw [keys_setAll, absorbs.keys]
    · rw [get?_setAll_latest, absorbs.found]

/-- A map is left as it was exactly when it already held the last record of every key. -/
theorem absorbs_self_iff {m : IndexedMap key} {added : List V} :
    Absorbs m added m ↔ ∀ v ∈ added, m.get? (key v) = latest key added (key v) := by
  constructor
  · intro absorbs v mem
    obtain ⟨last, found⟩ : ∃ last, latest key added (key v) = some last := exists_latest mem
    rw [absorbs.found, found, Option.some_or]
  · intro held
    have found (k : K) : m.get? k = (latest key added k).or (m.get? k) := by
      cases last : latest key added k with
      | none => rfl
      | some v =>
        obtain ⟨mem, rfl⟩ := mem_of_latest last
        rw [held v mem, last, Option.some_or]
    have old : ∀ vs : List V, (∀ v ∈ vs, key v ∈ m.keys) →
        FirstOccurrences.pushAll id m.keys (vs.map key) = m.keys := by
      intro vs all
      induction vs with
      | nil => rfl
      | cons v rest ih =>
        have present : id (key v) ∈ m.keys.map id := by
          rw [List.map_id]
          exact all v List.mem_cons_self
        rw [List.map_cons, FirstOccurrences.pushAll, List.foldl_cons, FirstOccurrences.push,
          if_pos present]
        exact ih fun w mem => all w (List.mem_cons_of_mem v mem)
    refine ⟨(old added fun v mem => ?_).symm, found⟩
    obtain ⟨last, eq⟩ : ∃ last, latest key added (key v) = some last := exists_latest mem
    rw [← has_iff, has, held v mem, eq]
    rfl

end IndexedMap
