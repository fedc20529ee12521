import Mathlib.Algebra.BigOperators.Group.List.Basic
import Mathlib.Data.List.Nodup

/-!
# Insertion-ordered maps of keyed records

A finite map whose values carry their own key and which remembers the order in
which its keys were first set, as a JavaScript `Map` does: setting a present key
keeps its position, deleting a key and setting it again moves it to the end.
-/

namespace IndexedMap

variable {V K : Type} [DecidableEq K] (key : V → K)

/-- Replace the record with the key of `v`, or append `v`. -/
def put (v : V) : List V → List V
  | [] => [v]
  | w :: rest => if key w = key v then v :: rest else w :: put v rest

theorem mem_keys_put (v : V) (l : List V) (a : K) :
    a ∈ (put key v l).map key ↔ a = key v ∨ a ∈ l.map key := by
  induction l with
  | nil => simp [put]
  | cons w rest ih =>
    by_cases h : key w = key v
    · simp [put, h]
    · simp only [put, h, ↓reduceIte, List.map_cons, List.mem_cons, ih]
      exact or_left_comm

theorem nodup_put (v : V) (l : List V) (h : (l.map key).Nodup) :
    ((put key v l).map key).Nodup := by
  induction l with
  | nil => simp [put]
  | cons w rest ih =>
    rw [List.map_cons, List.nodup_cons] at h
    by_cases hk : key w = key v
    · simp only [put, hk, ↓reduceIte, List.map_cons, List.nodup_cons]
      exact ⟨hk ▸ h.1, h.2⟩
    · simp only [put, hk, ↓reduceIte, List.map_cons, List.nodup_cons]
      refine ⟨?_, ih h.2⟩
      rw [mem_keys_put]
      rintro (same | present)
      · exact hk same
      · exact h.1 present

theorem find?_put (v : V) (l : List V) (a : K) :
    (put key v l).find? (fun w => key w = a) =
      if key v = a then some v else l.find? (fun w => key w = a) := by
  induction l with
  | nil => by_cases h : key v = a <;> simp [put, h]
  | cons w rest ih =>
    by_cases hk : key w = key v
    · by_cases h : key v = a <;> simp [put, hk, h]
    · by_cases h : key w = a
      · subst h; simp [put, hk, Ne.symm hk]
      · simp only [put, hk, ↓reduceIte, List.find?_cons, h, decide_false, ih]

theorem put_new {v : V} {l : List V} (apart : key v ∉ l.map key) : put key v l = l ++ [v] := by
  induction l with
  | nil => rfl
  | cons w rest ih =>
    rw [List.map_cons, List.mem_cons, not_or] at apart
    rw [put, if_neg (Ne.symm apart.1), ih apart.2, List.cons_append]

theorem mem_put {v w : V} {l : List V} (h : w ∈ put key v l) : w = v ∨ w ∈ l := by
  induction l with
  | nil => simpa [put] using h
  | cons u rest ih =>
    by_cases hk : key u = key v
    · simp only [put, hk, ↓reduceIte, List.mem_cons] at h
      exact h.imp_right (List.mem_cons_of_mem u)
    · simp only [put, hk, ↓reduceIte, List.mem_cons] at h
      rcases h with rfl | h
      · exact Or.inr List.mem_cons_self
      · exact (ih h).imp_right (List.mem_cons_of_mem u)

/-- Replacing a record changes a sum by what the new record has over the old one. -/
theorem sum_put {M : Type} [AddCommMonoid M] (f : V → M) {v old : V} {l : List V}
    (found : l.find? (fun w => key w = key v) = some old) :
    ((put key v l).map f).sum + f old = (l.map f).sum + f v := by
  induction l with
  | nil => simp at found
  | cons w rest ih =>
    by_cases hk : key w = key v
    · have same : w = old := by simpa [hk] using found
      subst same
      simp only [put, hk, ↓reduceIte, List.map_cons, List.sum_cons]
      rw [add_right_comm, add_comm (f v), add_assoc, add_comm (f v), ← add_assoc]
    · have later : rest.find? (fun w => key w = key v) = some old := by
        simpa [List.find?_cons, hk] using found
      simp only [put, hk, ↓reduceIte, List.map_cons, List.sum_cons, add_assoc, ih later]

/-- A record with a new key adds what it has. -/
theorem sum_put_new {M : Type} [AddCommMonoid M] (f : V → M) {v : V} {l : List V}
    (absent : l.find? (fun w => key w = key v) = none) :
    ((put key v l).map f).sum = (l.map f).sum + f v := by
  induction l with
  | nil => simp [put]
  | cons w rest ih =>
    by_cases hk : key w = key v
    · simp [hk] at absent
    · have later : rest.find? (fun w => key w = key v) = none := by
        simpa [List.find?_cons, hk] using absent
      simp only [put, hk, ↓reduceIte, List.map_cons, List.sum_cons, add_assoc, ih later]

end IndexedMap

/-- Records in insertion order, with distinct keys. -/
structure IndexedMap {V K : Type} (key : V → K) where
  values : List V
  distinct : (values.map key).Nodup

namespace IndexedMap

variable {V K : Type} {key : V → K}

def empty : IndexedMap key := ⟨[], List.nodup_nil⟩

def keys (m : IndexedMap key) : List K := m.values.map key

def size (m : IndexedMap key) : Nat := m.values.length

@[simp] theorem values_empty : (empty : IndexedMap key).values = [] := rfl

@[simp] theorem keys_empty : (empty : IndexedMap key).keys = [] := rfl

theorem size_eq_zero (m : IndexedMap key) : m.size = 0 ↔ m.keys = [] := by
  simp [size, keys]

theorem key_mem {m : IndexedMap key} {v : V} (h : v ∈ m.values) : key v ∈ m.keys :=
  List.mem_map_of_mem h

variable [DecidableEq K]

def get? (m : IndexedMap key) (k : K) : Option V := m.values.find? fun v => key v = k

def has (m : IndexedMap key) (k : K) : Bool := (m.get? k).isSome

def set (m : IndexedMap key) (v : V) : IndexedMap key :=
  ⟨put key v m.values, nodup_put key v _ m.distinct⟩

def delete (m : IndexedMap key) (k : K) : IndexedMap key :=
  ⟨m.values.filter fun v => key v ≠ k, m.distinct.sublist (List.filter_sublist.map _)⟩

/-- The records that satisfy `keep`, in order. -/
def filter (m : IndexedMap key) (keep : V → Bool) : IndexedMap key :=
  ⟨m.values.filter keep, m.distinct.sublist (List.filter_sublist.map _)⟩

/-- Change every record, and no key. -/
def map (m : IndexedMap key) (f : V → V) (same : ∀ v, key (f v) = key v) : IndexedMap key :=
  ⟨m.values.map f, by
    have keys : (m.values.map f).map key = m.values.map key := by simp [same]
    exact keys ▸ m.distinct⟩

/-- Set every record of a list, in order. -/
def setAll (m : IndexedMap key) (vs : List V) : IndexedMap key := vs.foldl set m

@[simp] theorem mem_keys_set (m : IndexedMap key) (v : V) (a : K) :
    a ∈ (m.set v).keys ↔ a = key v ∨ a ∈ m.keys :=
  mem_keys_put key v m.values a

@[simp] theorem mem_keys_delete (m : IndexedMap key) (k a : K) :
    a ∈ (m.delete k).keys ↔ a ≠ k ∧ a ∈ m.keys := by
  simp only [keys, delete, List.mem_map, List.mem_filter, ne_eq, decide_not, Bool.not_eq_true',
    decide_eq_false_iff_not]
  constructor
  · rintro ⟨v, ⟨hv, hk⟩, rfl⟩; exact ⟨hk, v, hv, rfl⟩
  · rintro ⟨hk, v, hv, rfl⟩; exact ⟨v, ⟨hv, hk⟩, rfl⟩

@[simp] theorem get?_set (m : IndexedMap key) (v : V) (a : K) :
    (m.set v).get? a = if key v = a then some v else m.get? a :=
  find?_put key v m.values a

theorem sum_set {M : Type} [AddCommMonoid M] (m : IndexedMap key) (f : V → M) {v old : V}
    (found : m.get? (key v) = some old) :
    ((m.set v).values.map f).sum + f old = (m.values.map f).sum + f v :=
  sum_put key f found

theorem sum_set_new {M : Type} [AddCommMonoid M] (m : IndexedMap key) (f : V → M) {v : V}
    (absent : m.get? (key v) = none) :
    ((m.set v).values.map f).sum = (m.values.map f).sum + f v :=
  sum_put_new key f absent

omit [DecidableEq K] in
theorem filter_eq_self {m : IndexedMap key} {keep : V → Bool} (all : ∀ v ∈ m.values, keep v = true) :
    m.filter keep = m := by
  cases m
  simp only [filter, mk.injEq]
  exact List.filter_eq_self.mpr all

omit [DecidableEq K] in
/-- Records that add nothing can be filtered out of a sum. -/
theorem sum_filter {M : Type} [AddCommMonoid M] (m : IndexedMap key) (f : V → M)
    {keep : V → Bool} (nothing : ∀ v, keep v = false → f v = 0) :
    ((m.filter keep).values.map f).sum = (m.values.map f).sum := by
  change ((m.values.filter keep).map f).sum = _
  induction m.values with
  | nil => rfl
  | cons v rest ih =>
    cases kept : keep v with
    | true => rw [List.filter_cons_of_pos kept, List.map_cons, List.map_cons, List.sum_cons, ih,
        List.sum_cons]
    | false => rw [List.filter_cons_of_neg (by simp [kept]), ih, List.map_cons, List.sum_cons,
        nothing v kept, zero_add]

theorem has_iff (m : IndexedMap key) (k : K) : m.has k = true ↔ k ∈ m.keys := by
  simp [has, get?, keys]

theorem get?_some {m : IndexedMap key} {k : K} {v : V} (h : m.get? k = some v) :
    v ∈ m.values ∧ key v = k :=
  ⟨List.mem_of_find?_eq_some h, by simpa using List.find?_some h⟩

theorem get?_of_mem {m : IndexedMap key} {v : V} (h : v ∈ m.values) : m.get? (key v) = some v := by
  have distinct := m.distinct
  unfold get?
  generalize m.values = l at h distinct
  induction l with
  | nil => exact absurd h List.not_mem_nil
  | cons w rest ih =>
    rw [List.map_cons, List.nodup_cons] at distinct
    rcases List.mem_cons.mp h with rfl | later
    · simp
    · have other : key w ≠ key v := fun same => distinct.1 (same ▸ List.mem_map_of_mem later)
      rw [List.find?_cons_of_neg (by simpa using other)]
      exact ih later distinct.2

theorem get?_map (m : IndexedMap key) (f : V → V) (same : ∀ v, key (f v) = key v) (k : K) :
    (m.map f same).get? k = (m.get? k).map f := by
  simp only [get?, map, List.find?_map, Function.comp_def, same]

theorem get?_filter (m : IndexedMap key) (keep : V → Bool) (k : K) :
    (m.filter keep).get? k = (m.get? k).filter keep := by
  have kept : ∀ v, v ∈ (m.filter keep).values ↔ v ∈ m.values ∧ keep v = true := fun v =>
    List.mem_filter
  cases found : (m.filter keep).get? k with
  | some v =>
    obtain ⟨mem, rfl⟩ := get?_some found
    obtain ⟨mem, keeps⟩ := (kept v).mp mem
    rw [get?_of_mem mem, Option.filter_some, if_pos keeps]
  | none =>
    cases stored : m.get? k with
    | none => rfl
    | some v =>
      obtain ⟨mem, rfl⟩ := get?_some stored
      rw [Option.filter_some, if_neg]
      intro keeps
      rw [get?_of_mem ((kept v).mpr ⟨mem, keeps⟩)] at found
      cases found

theorem get?_delete (m : IndexedMap key) (k a : K) :
    (m.delete k).get? a = if a = k then none else m.get? a := by
  unfold get? delete
  rw [List.find?_filter]
  by_cases same : a = k
  · subst same
    simp
  · rw [if_neg same]
    congr 1
    funext v
    by_cases found : key v = a
    · simp [found, same]
    · simp [found]

theorem mem_set {m : IndexedMap key} {v w : V} (h : w ∈ (m.set v).values) :
    w = v ∨ w ∈ m.values :=
  mem_put key h

/-- A record found after another was set is that one, or has another key. -/
theorem mem_set_other {m : IndexedMap key} {v w : V} (h : w ∈ (m.set v).values) :
    w = v ∨ w ∈ m.values ∧ key w ≠ key v := by
  have found := get?_of_mem h
  rw [get?_set] at found
  split at found
  · exact Or.inl (Option.some.inj found).symm
  · rename_i other
    exact Or.inr ⟨(get?_some found).1, fun same => other same.symm⟩

@[simp] theorem setAll_nil (m : IndexedMap key) : m.setAll [] = m := rfl

@[simp] theorem setAll_cons (m : IndexedMap key) (v : V) (vs : List V) :
    m.setAll (v :: vs) = (m.set v).setAll vs := rfl

/-- Records under new keys are appended. -/
theorem values_setAll_new {m : IndexedMap key} {vs : List V} (distinct : (vs.map key).Nodup)
    (apart : ∀ v ∈ vs, key v ∉ m.keys) : (m.setAll vs).values = m.values ++ vs := by
  induction vs generalizing m with
  | nil => simp
  | cons v rest ih =>
    rw [List.map_cons, List.nodup_cons] at distinct
    have appended : (m.set v).values = m.values ++ [v] := put_new key (apart v List.mem_cons_self)
    have later : ∀ w ∈ rest, key w ∉ (m.set v).keys := by
      intro w mem taken
      rcases (mem_keys_set m v (key w)).mp taken with same | taken
      · exact distinct.1 (same ▸ List.mem_map_of_mem mem)
      · exact apart w (List.mem_cons_of_mem v mem) taken
    rw [setAll_cons, ih distinct.2 later, appended, List.append_assoc, List.singleton_append]

@[simp] theorem mem_keys_setAll (m : IndexedMap key) (vs : List V) (a : K) :
    a ∈ (m.setAll vs).keys ↔ a ∈ vs.map key ∨ a ∈ m.keys := by
  induction vs generalizing m with
  | nil => simp
  | cons v rest ih =>
    rw [setAll_cons, ih, mem_keys_set, List.map_cons, List.mem_cons]
    tauto

theorem get?_setAll (m : IndexedMap key) {vs : List V} (distinct : (vs.map key).Nodup) (a : K) :
    (m.setAll vs).get? a = (vs.find? fun v => key v = a).or (m.get? a) := by
  induction vs generalizing m with
  | nil => simp
  | cons v rest ih =>
    rw [List.map_cons, List.nodup_cons] at distinct
    rw [setAll_cons, ih _ distinct.2, get?_set]
    by_cases same : key v = a
    · have absent : (rest.find? fun w => key w = a) = none := by
        rw [List.find?_eq_none]
        intro w mem found
        exact distinct.1 (same ▸ of_decide_eq_true found ▸ List.mem_map_of_mem mem)
      simp [same, absent]
    · simp [same]

/-- A map built from the values of another finds the same. -/
theorem get?_setAll_values (m : IndexedMap key) (a : K) :
    ((empty : IndexedMap key).setAll m.values).get? a = m.get? a := by
  rw [get?_setAll _ m.distinct]
  unfold get?
  simp

theorem mem_setAll {m : IndexedMap key} {vs : List V} {w : V} (h : w ∈ (m.setAll vs).values) :
    w ∈ vs ∨ w ∈ m.values := by
  induction vs generalizing m with
  | nil => exact Or.inr h
  | cons v rest ih =>
    rcases ih h with h | h
    · exact Or.inl (List.mem_cons_of_mem v h)
    · rcases mem_set h with rfl | h
      · exact Or.inl List.mem_cons_self
      · exact Or.inr h

end IndexedMap
