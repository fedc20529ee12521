import Mathlib.Data.List.Infix

/-!
# Longest matches

A table is scanned for the first key a name begins with. The key found is the longest one if no
key stands behind a shorter one that begins it, at least among the keys the name begins with.
-/

namespace KeyCollective.LongestMatch

variable {E α : Type} [DecidableEq α] (key : E → List α)

/-- The name begins with the entry's key. -/
def matched (name : List α) (entry : E) : Bool := (key entry).isPrefixOf name

/-- The first entry whose key the name begins with. -/
def first (table : List E) (name : List α) : Option E := table.find? (matched key name)

/-- Of the entries whose keys the name begins with, one of the longest key. -/
structure IsLongest (table : List E) (name : List α) (entry : E) : Prop where
  mem : entry ∈ table
  begins : key entry <+: name
  longest : ∀ other ∈ table, key other <+: name → (key other).length ≤ (key entry).length

variable {key} {table : List E} {name : List α} {entry : E}

theorem matched_iff : matched key name entry = true ↔ key entry <+: name :=
  List.isPrefixOf_iff_prefix

theorem first_eq_none_iff : first key table name = none ↔ ∀ entry ∈ table, ¬key entry <+: name := by
  simp only [first, List.find?_eq_none, matched_iff]

omit [DecidableEq α] in
/-- Two longest keys are equal. -/
theorem IsLongest.key_eq {other : E} (one : IsLongest key table name entry)
    (two : IsLongest key table name other) : key entry = key other := by
  have lengths : (key entry).length = (key other).length :=
    le_antisymm (two.longest entry one.mem one.begins) (one.longest other two.mem two.begins)
  rcases List.prefix_or_prefix_of_prefix one.begins two.begins with before | before
  · exact before.eq_of_length lengths
  · exact (before.eq_of_length lengths.symm).symm

/-- In a table where no key stands behind one that begins it, the first match is the longest. -/
theorem isLongest_first
    (ordered : table.Pairwise fun earlier later =>
      key earlier <+: key later → key later <+: name → key earlier = key later)
    (found : first key table name = some entry) : IsLongest key table name entry := by
  induction table with
  | nil => cases found
  | cons head rest ih =>
    obtain ⟨front, ordered⟩ := List.pairwise_cons.mp ordered
    by_cases begins : matched key name head = true
    · rw [first, List.find?_cons_of_pos begins] at found
      obtain rfl := Option.some.inj found
      have begins := matched_iff.mp begins
      refine ⟨List.mem_cons_self, begins, ?_⟩
      intro other mem matching
      rcases List.mem_cons.mp mem with rfl | later
      · exact Nat.le_refl _
      · rcases List.prefix_or_prefix_of_prefix begins matching with before | before
        · exact (congrArg List.length (front other later before matching)).ge
        · exact before.length_le
    · rw [first, List.find?_cons_of_neg begins] at found
      obtain ⟨mem, begun, longest⟩ := ih ordered found
      refine ⟨List.mem_cons_of_mem _ mem, begun, ?_⟩
      intro other mem matching
      rcases List.mem_cons.mp mem with rfl | later
      · exact absurd (matched_iff.mpr matching) begins
      · exact longest other later matching

omit [DecidableEq α] in
/-- A key the name begins with is the longest, if no key goes on behind it. -/
theorem isLongest_of_begins (mem : entry ∈ table) (begins : key entry <+: name)
    (last : ∀ other ∈ table, key entry <+: key other → key other = key entry) :
    IsLongest key table name entry := by
  refine ⟨mem, begins, ?_⟩
  intro other inside matching
  rcases List.prefix_or_prefix_of_prefix matching begins with before | before
  · exact before.length_le
  · exact (congrArg List.length (last other inside before)).le

/-- A name is matched like its beginning, if no key goes on behind that. -/
theorem first_of_begins {part : List α} (begins : part <+: name)
    (last : ∀ entry ∈ table, part <+: key entry → key entry = part) :
    first key table name = first key table part := by
  have same : ∀ entry ∈ table, matched key name entry = matched key part entry := by
    intro entry mem
    rw [Bool.eq_iff_iff, matched_iff, matched_iff]
    constructor
    · intro matching
      rcases List.prefix_or_prefix_of_prefix matching begins with before | before
      · exact before
      · exact (last entry mem before) ▸ List.prefix_rfl
    · exact fun matching => matching.trans begins
  rw [first, first, ← List.head?_filter, ← List.head?_filter, List.filter_congr same]

end KeyCollective.LongestMatch
