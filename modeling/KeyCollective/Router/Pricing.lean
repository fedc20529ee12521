import KeyCollective.Lib.LongestMatch
import KeyCollective.Router.Costs

/-!
# Pricing of model names

A price is looked up under a normalised name, first among the custom prices, then in the table,
then by the first key of the table the name begins with. A custom price is registered under the
cleaned name, which still has its provider.
-/

namespace KeyCollective.CostCalculator

/-- Custom prices by name. -/
abbrev CustomPricing := IndexedMap (Prod.fst : String × ModelPricing → String)

def entryKey (entry : String × ModelPricing) : List Char := entry.1.toList

/-- The table without its default entry. -/
def versionedPricing : List (String × ModelPricing) :=
  defaultModelPricing.filter (·.1 ≠ "default")

/-- The price of the longest key of the table the name begins with, or the default price. -/
def IsLongestPrice (name : String) (price : ModelPricing) : Prop :=
  (∃ entry, LongestMatch.IsLongest entryKey versionedPricing name.toList entry ∧
    price = entry.2) ∨
  (∀ entry ∈ versionedPricing, ¬entryKey entry <+: name.toList) ∧ price = defaultPricing

section

variable [Host] (customModelPricing : CustomPricing) (model : String)

/-- A price there is, and the longest match where no entry has the name. -/
structure PricedByLongestMatch : Prop where
  known : getModelPricing customModelPricing model ∈ customModelPricing.values.map Prod.snd ∨
    getModelPricing customModelPricing model ∈ defaultModelPricing.map Prod.snd
  longest : normalizeModelName model ∉ customModelPricing.keys →
    normalizeModelName model ∉ defaultModelPricing.map Prod.fst →
    IsLongestPrice (normalizeModelName model) (getModelPricing customModelPricing model)

variable {customModelPricing model}

theorem getModelPricing_custom (custom : normalizeModelName model ∈ customModelPricing.keys) :
    getModelPricing customModelPricing model ∈ customModelPricing.values.map Prod.snd := by
  obtain ⟨entry, found⟩ := Option.isSome_iff_exists.mp
    ((customModelPricing.has_iff _).mpr custom)
  rw [getModelPricing, found]
  exact List.mem_map_of_mem (IndexedMap.get?_some found).1

theorem get?_of_not_custom (custom : normalizeModelName model ∉ customModelPricing.keys) :
    customModelPricing.get? (normalizeModelName model) = none := by
  cases found : customModelPricing.get? (normalizeModelName model) with
  | none => rfl
  | some entry =>
    obtain ⟨mem, name⟩ := IndexedMap.get?_some found
    exact absurd (name ▸ IndexedMap.key_mem mem) custom

omit [Host] in
theorem lookup_eq_none {name : String} (absent : name ∉ defaultModelPricing.map Prod.fst) :
    defaultModelPricing.lookup name = none := by
  rw [List.lookup_eq_none_iff]
  intro entry mem
  exact bne_iff_ne.mpr fun same => absent (same ▸ List.mem_map_of_mem mem)

omit [Host] in
theorem lookup_eq_some {name : String} (listed : name ∈ defaultModelPricing.map Prod.fst) :
    ∃ price, defaultModelPricing.lookup name = some price ∧
      (name, price) ∈ defaultModelPricing := by
  cases found : defaultModelPricing.lookup name with
  | some price =>
    obtain ⟨front, back, split, -⟩ := List.lookup_eq_some_iff.mp found
    exact ⟨price, rfl, split ▸ List.mem_append_right _ List.mem_cons_self⟩
  | none =>
    obtain ⟨entry, mem, rfl⟩ := List.mem_map.mp listed
    have apart := List.lookup_eq_none_iff.mp found entry mem
    exact absurd rfl (bne_iff_ne.mp apart)

/-- A name of no entry is priced by the first key it begins with. -/
theorem getModelPricing_scan (custom : normalizeModelName model ∉ customModelPricing.keys)
    (absent : normalizeModelName model ∉ defaultModelPricing.map Prod.fst)
    (own : normalizeModelName model ∉ inheritedNames) :
    getModelPricing customModelPricing model =
      ((LongestMatch.first entryKey versionedPricing (normalizeModelName model).toList).map
        Prod.snd).getD defaultPricing := by
  have scan : (defaultModelPricing.find? fun entry =>
        decide (entry.1 ≠ "default" ∧ startsWith (normalizeModelName model) entry.1 = true)) =
      LongestMatch.first entryKey versionedPricing (normalizeModelName model).toList := by
    rw [LongestMatch.first, versionedPricing, List.find?_filter]
    congr 1
    funext entry
    exact decide_eq_decide.mpr (and_congr decide_eq_true_iff.symm Iff.rfl)
  rw [getModelPricing, get?_of_not_custom custom, lookup_eq_none absent, if_neg own, scan]
  cases LongestMatch.first entryKey versionedPricing (normalizeModelName model).toList <;> rfl

end

/-! ## The keys of the table -/

/-- The names that begin with a key behind a shorter one. -/
def Overtaken (name : String) : Prop :=
  startsWith name "gpt-4o-mini" = true ∨ startsWith name "o1-mini" = true

theorem versionedPricing_ordered : versionedPricing.Pairwise fun earlier later =>
    entryKey earlier <+: entryKey later → later.1 = "gpt-4o-mini" ∨ later.1 = "o1-mini" := by
  decide

/-- Any other name is priced by its longest key. -/
theorem isLongestPrice_first {name : String} (apart : ¬Overtaken name) :
    IsLongestPrice name (((LongestMatch.first entryKey versionedPricing name.toList).map
      Prod.snd).getD defaultPricing) := by
  have ordered : versionedPricing.Pairwise fun earlier later =>
      entryKey earlier <+: entryKey later → entryKey later <+: name.toList →
        entryKey earlier = entryKey later := by
    refine versionedPricing_ordered.imp ?_
    intro earlier later overtaken before begins
    have starts : startsWith name later.1 = true := List.isPrefixOf_iff_prefix.mpr begins
    rcases overtaken before with same | same
    · exact absurd (Or.inl (same ▸ starts)) apart
    · exact absurd (Or.inr (same ▸ starts)) apart
  cases found : LongestMatch.first entryKey versionedPricing name.toList with
  | none => exact Or.inr ⟨LongestMatch.first_eq_none_iff.mp found, rfl⟩
  | some entry => exact Or.inl ⟨entry, LongestMatch.isLongest_first ordered found, rfl⟩

/-- A name with such a beginning has the price of a shorter key. -/
theorem not_isLongestPrice {name : String} {entry shorter : String × ModelPricing}
    (mem : entry ∈ versionedPricing) (begins : startsWith name entry.1 = true)
    (last : ∀ other ∈ versionedPricing, entryKey entry <+: entryKey other → other = entry)
    (found : LongestMatch.first entryKey versionedPricing (entryKey entry) = some shorter)
    (dearer : shorter.2 ≠ entry.2) :
    ¬IsLongestPrice name (((LongestMatch.first entryKey versionedPricing name.toList).map
      Prod.snd).getD defaultPricing) := by
  have begins : entryKey entry <+: name.toList := List.isPrefixOf_iff_prefix.mp begins
  have keys : ∀ other ∈ versionedPricing, entryKey entry <+: entryKey other →
      entryKey other = entryKey entry := fun other inside before =>
    congrArg entryKey (last other inside before)
  have longest := LongestMatch.isLongest_of_begins mem begins keys
  rw [LongestMatch.first_of_begins begins keys, found]
  rintro (⟨other, other_longest, price⟩ | ⟨none, -⟩)
  · have same := last other other_longest.mem
      (longest.key_eq other_longest ▸ List.prefix_rfl)
    exact dearer (same ▸ price)
  · exact none entry mem begins

theorem not_isLongestPrice_of_overtaken {name : String} (overtaken : Overtaken name) :
    ¬IsLongestPrice name (((LongestMatch.first entryKey versionedPricing name.toList).map
      Prod.snd).getD defaultPricing) := by
  rcases overtaken with mini | mini
  · exact @not_isLongestPrice _ ("gpt-4o-mini", pricing 150000 600000)
      ("gpt-4o", pricing 2500000 10000000) (by decide) mini (by decide)
      (by decide) (by decide)
  · exact @not_isLongestPrice _ ("o1-mini", pricing 3000000 12000000)
      ("o1", pricing 15000000 60000000) (by decide) mini (by decide)
      (by decide) (by decide)

/-! ## Lookup -/

section

variable [Host] {customModelPricing : CustomPricing} {model : String}

omit [Host] in
/-- What any object has is no price of the table. -/
theorem not_isLongestPrice_inherited (name : String) : ¬IsLongestPrice name ⟨none, none⟩ := by
  have priced : ∀ entry ∈ versionedPricing, entry.2 ≠ ⟨none, none⟩ := by decide
  rintro (⟨entry, longest, price⟩ | ⟨-, price⟩)
  · exact priced entry longest.mem price.symm
  · cases price

/-- Prices are looked up by longest match exactly for custom names, for the names of the table,
and for those that begin with no key behind a shorter one and that no object has. -/
theorem pricedByLongestMatch_iff (customModelPricing : CustomPricing) (model : String) :
    PricedByLongestMatch customModelPricing model ↔
      normalizeModelName model ∈ customModelPricing.keys ∨
      normalizeModelName model ∉ inheritedNames ∧
        (normalizeModelName model ∈ defaultModelPricing.map Prod.fst ∨
          ¬Overtaken (normalizeModelName model)) := by
  by_cases custom : normalizeModelName model ∈ customModelPricing.keys
  · refine iff_of_true ?_ (Or.inl custom)
    exact ⟨Or.inl (getModelPricing_custom custom), fun other => absurd custom other⟩
  rw [or_iff_right custom]
  by_cases inherited : normalizeModelName model ∈ inheritedNames
  · refine iff_of_false ?_ fun condition => condition.1 inherited
    intro priced
    have absent : normalizeModelName model ∉ defaultModelPricing.map Prod.fst := by
      have apart : ∀ name ∈ inheritedNames, name ∉ defaultModelPricing.map Prod.fst := by decide
      exact apart _ inherited
    have none : getModelPricing customModelPricing model = ⟨none, none⟩ := by
      rw [getModelPricing, get?_of_not_custom custom, lookup_eq_none absent, if_pos inherited]
    exact not_isLongestPrice_inherited _ (none ▸ priced.longest custom absent)
  rw [and_iff_right inherited]
  by_cases listed : normalizeModelName model ∈ defaultModelPricing.map Prod.fst
  · refine iff_of_true ⟨Or.inr ?_, fun _ absent => absurd listed absent⟩ (Or.inl listed)
    obtain ⟨price, found, mem⟩ := lookup_eq_some listed
    rw [getModelPricing, get?_of_not_custom custom, found]
    exact List.mem_map_of_mem mem
  rw [or_iff_right listed]
  have scan := getModelPricing_scan custom listed inherited
  constructor
  · intro priced overtaken
    exact not_isLongestPrice_of_overtaken overtaken (scan ▸ priced.longest custom listed)
  · intro apart
    refine ⟨Or.inr ?_, fun _ _ => scan ▸ isLongestPrice_first apart⟩
    rw [scan]
    cases found : LongestMatch.first entryKey versionedPricing
      (normalizeModelName model).toList with
    | none =>
      have listed : ("default", defaultPricing) ∈ defaultModelPricing := by decide
      exact List.mem_map_of_mem listed
    | some entry =>
      exact List.mem_map_of_mem (List.mem_of_mem_filter (List.mem_of_find?_eq_some found))

/-! ## Registration -/

/-- After a registration the model has its price, and every name of another normal form keeps
its own. -/
structure RoundTrip (customModelPricing : CustomPricing) (model : String)
    (price : ModelPricing) : Prop where
  registered :
    getModelPricing (registerModelPricing customModelPricing model price) model = price
  others : ∀ name, normalizeModelName name ≠ normalizeModelName model →
    getModelPricing (registerModelPricing customModelPricing model price) name =
      getModelPricing customModelPricing name

/-- A cleaned name with no slash is normal. -/
theorem normalizeModelName_of_not_mem (plain : '/' ∉ (cleanName model).toList) :
    normalizeModelName model = cleanName model := by
  have all : (cleanName model).toList.dropWhile (· ≠ '/') = [] := by
    rw [List.dropWhile_eq_nil_iff]
    exact fun c mem => decide_eq_true fun same => plain (same ▸ mem)
  simp only [normalizeModelName, all, String.ofList_toList]

/-- With a slash the normal form is shorter. -/
theorem normalizeModelName_ne (slash : '/' ∈ (cleanName model).toList) :
    normalizeModelName model ≠ cleanName model := by
  cases found : (cleanName model).toList.dropWhile (· ≠ '/') with
  | nil =>
    have none := List.dropWhile_eq_nil_iff.mp found '/' slash
    exact absurd rfl (of_decide_eq_true none)
  | cons c rest =>
    have normal : normalizeModelName model = String.ofList rest := by
      simp only [normalizeModelName, found]
    have shorter := List.length_dropWhile_le (· ≠ '/') (cleanName model).toList
    rw [normal]
    intro same
    rw [found, ← same, String.toList_ofList, List.length_cons] at shorter
    omega

/-- A price is looked up under the normal form, and registered under the cleaned name. -/
theorem get?_register (price : ModelPricing) (name : String) :
    (registerModelPricing customModelPricing model price).get? (normalizeModelName name) =
      if cleanName model = normalizeModelName name then some (cleanName model, price)
      else customModelPricing.get? (normalizeModelName name) := by
  rw [registerModelPricing, IndexedMap.get?_set]

/-- A name of another key keeps its price. -/
theorem getModelPricing_register_other (price : ModelPricing) {name : String}
    (apart : cleanName model ≠ normalizeModelName name) :
    getModelPricing (registerModelPricing customModelPricing model price) name =
      getModelPricing customModelPricing name := by
  have same := @get?_register _ customModelPricing model price name
  rw [if_neg apart] at same
  rw [getModelPricing, same]
  rfl

/-- Registrations take effect, and only for their model, exactly if its name has no slash. -/
theorem roundTrip_iff (customModelPricing : CustomPricing) (model : String) :
    (∀ price, RoundTrip customModelPricing model price) ↔ '/' ∉ (cleanName model).toList := by
  constructor
  · intro trips slash
    -- the price the model already has is not every price
    have kept : ∀ price, price = getModelPricing customModelPricing model := fun price => by
      rw [← getModelPricing_register_other price (normalizeModelName_ne slash).symm]
      exact (trips price).registered.symm
    exact absurd ((kept (pricing 0 0)).trans (kept defaultPricing).symm) (by decide)
  · intro plain price
    have normal := normalizeModelName_of_not_mem plain
    constructor
    · have found := @get?_register _ customModelPricing model price model
      rw [if_pos normal.symm] at found
      rw [getModelPricing, found]
    · intro name apart
      exact getModelPricing_register_other price fun same => apart (same.symm.trans normal.symm)

end

/-! ## Names with a version or a provider -/

section Example

attribute [local instance] asciiHost

/-- A dated name of `gpt-4o-mini` has the price of `gpt-4o`, and a constructor has none. -/
theorem mini_priced_as_full :
    getModelPricing .empty "gpt-4o-mini-2024-07-18" = pricing 2500000 10000000 ∧
      LongestMatch.IsLongest entryKey versionedPricing "gpt-4o-mini-2024-07-18".toList
        ("gpt-4o-mini", pricing 150000 600000) ∧
      getModelPricing .empty "constructor" = ⟨none, none⟩ := by
  refine ⟨by decide, ⟨by decide, by decide, by decide⟩,
    by decide⟩

def providerPricing : CustomPricing :=
  registerModelPricing .empty "openai/gpt-4o" (pricing 1 2)

/-- A price registered for a name with its provider is not that name's, but that of the name
with one more provider. -/
theorem provider_not_found :
    getModelPricing providerPricing "openai/gpt-4o" = pricing 2500000 10000000 ∧
      getModelPricing .empty "azure/openai/gpt-4o" = defaultPricing ∧
      getModelPricing providerPricing "azure/openai/gpt-4o" = pricing 1 2 := by
  decide

end Example

end KeyCollective.CostCalculator
