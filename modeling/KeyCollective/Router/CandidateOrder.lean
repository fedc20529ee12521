import KeyCollective.Router.Candidates

/-!
# The order of candidates

`filterCandidates` keeps the models that pass the audit and sorts them. Models of distinct ids
are never equal to a strategy that orders them, so their list does not depend on the order they
come in.
-/

namespace KeyCollective

structure FilterOptions where
  sortBy : Option ModelSortStrategy := none
  throwIfEmpty : Option Bool := none

structure CapabilityMismatchError where
  requiredCapabilities : List String
  message : String
  candidateModel : Option String
  candidatesEvaluated : Nat
  requirements : CapabilityRequirements
deriving DecidableEq

section

variable [NumberText]

/-- The requirements as tags. -/
def getRequiredCapabilityNames (requirements : CapabilityRequirements) : List String :=
  let named (condition : Bool) (tag : String) := if condition then [tag] else []
  let text (limit : Option Number) : String := (limit.map Number.text).getD ""
  named requirements.requiresTools "tools" ++
  named requirements.requiresVision "vision" ++
  named requirements.requiresJsonSchema "json_schema" ++
  named (requirements.requiresStreaming.getD false) "streaming" ++
  named (requirements.minContextLength.any Number.isPositive)
    ("context_length>=" ++ text requirements.minContextLength) ++
  named (requirements.maxOutputTokens.any Number.isPositive)
    ("max_output_tokens>=" ++ text requirements.maxOutputTokens) ++
  named (!isFalsy requirements.provider) ("provider=" ++ requirements.provider.getD "") ++
  named requirements.maxCostPerMTokMicro.isSome
    ("cost<=" ++ toString (requirements.maxCostPerMTokMicro.getD 0))

def capabilityMismatch (models : List ModelDef) (requirements : CapabilityRequirements) :
    CapabilityMismatchError :=
  let requiredCaps := getRequiredCapabilityNames requirements
  { requiredCapabilities := if requiredCaps = [] then ["unknown"] else requiredCaps
    message := "No candidate model satisfied the required capabilities: [" ++
      ", ".intercalate requiredCaps ++ "]"
    candidateModel := models.head?.map ModelDef.id
    candidatesEvaluated := models.length
    requirements }

variable [Host] [Collation]

def filterCandidates (models : List ModelDef) (requirements : CapabilityRequirements)
    (options : FilterOptions) : Except CapabilityMismatchError (List ModelDef) :=
  let matched := models.filter (isCapable · requirements)
  let sorted := sortCandidates matched (options.sortBy.getD .costAsc)
  if sorted = [] ∧ options.throwIfEmpty = some true then
    .error (capabilityMismatch models requirements)
  else .ok sorted

end

/-! ## Strategies -/

section

variable [Collation]

/-- The criteria of a strategy, one after the other. -/
def Before (strategy : ModelSortStrategy) (a b : ModelDef) : Prop :=
  match strategy with
  | .costAsc =>
    a.inputCostPerMTokMicro < b.inputCostPerMTokMicro ∨
    a.inputCostPerMTokMicro = b.inputCostPerMTokMicro ∧
      (a.outputCostPerMTokMicro < b.outputCostPerMTokMicro ∨
      a.outputCostPerMTokMicro = b.outputCostPerMTokMicro ∧
        (b.contextWindow < a.contextWindow ∨
        a.contextWindow = b.contextWindow ∧ Collation.localeCompare a.id b.id = .lt))
  | .costDesc =>
    b.inputCostPerMTokMicro < a.inputCostPerMTokMicro ∨
    a.inputCostPerMTokMicro = b.inputCostPerMTokMicro ∧ Collation.localeCompare b.id a.id = .lt
  | .contextDesc =>
    b.contextWindow < a.contextWindow ∨
    a.contextWindow = b.contextWindow ∧
      (a.inputCostPerMTokMicro < b.inputCostPerMTokMicro ∨
      a.inputCostPerMTokMicro = b.inputCostPerMTokMicro ∧
        Collation.localeCompare a.id b.id = .lt)
  | .none => False

omit [Collation] in
theorem then_compare_eq_lt (x y : Int) (o : Ordering) :
    (compare x y).then o = .lt ↔ x < y ∨ x = y ∧ o = .lt := by
  rw [Ordering.then_eq_lt, Int.compare_eq_lt, Int.compare_eq_eq]

/-- A strategy puts a model first exactly by its criteria. -/
theorem compareBy_eq_lt_iff (strategy : ModelSortStrategy) (a b : ModelDef) :
    compareBy strategy a b = .lt ↔ Before strategy a b := by
  cases strategy with
  | costAsc =>
    simp only [compareBy, Before, then_compare_eq_lt, eq_comm (a := b.contextWindow)]
  | costDesc =>
    simp only [compareBy, Before, then_compare_eq_lt, eq_comm (a := b.inputCostPerMTokMicro)]
  | contextDesc =>
    simp only [compareBy, Before, then_compare_eq_lt, eq_comm (a := b.contextWindow)]
  | none => simp [compareBy, Before]

/-- Models a strategy cannot tell apart have ids that compare equal. -/
theorem ids_of_compareBy_eq {strategy : ModelSortStrategy} (ordered : strategy ≠ .none)
    {a b : ModelDef} (same : compareBy strategy a b = .eq) :
    Collation.localeCompare a.id b.id = .eq ∨ Collation.localeCompare b.id a.id = .eq := by
  cases strategy with
  | costAsc =>
    simp only [compareBy, Ordering.then_eq_eq] at same
    exact Or.inl same.2.2.2
  | costDesc =>
    simp only [compareBy, Ordering.then_eq_eq] at same
    exact Or.inr same.2
  | contextDesc =>
    simp only [compareBy, Ordering.then_eq_eq] at same
    exact Or.inl same.2.2
  | none => exact absurd rfl ordered

end

/-! ## Permutations -/

/-- Models of distinct ids, whose order the runtime's comparison of text totally decides. -/
structure Distinct [Collation] (models : List ModelDef) : Prop where
  ids : (models.map ModelDef.id).Nodup
  total : ∀ a ∈ models, ∀ b ∈ models, Collation.localeCompare a.id b.id = .eq → a.id = b.id

section

variable [Collation] {models : List ModelDef} {strategy : ModelSortStrategy}

theorem Distinct.eq_of_compareBy (distinct : Distinct models) (ordered : strategy ≠ .none)
    {a b : ModelDef} (mem_a : a ∈ models) (mem_b : b ∈ models)
    (same : compareBy strategy a b = .eq) : a = b := by
  apply List.inj_on_of_nodup_map distinct.ids mem_a mem_b
  rcases ids_of_compareBy_eq ordered same with first | second
  · exact distinct.total a mem_a b mem_b first
  · exact (distinct.total b mem_b a mem_a second).symm

variable [Std.TransCmp Collation.localeCompare]

/-- Of distinct models a strategy has one order. -/
theorem Distinct.sortCandidates_eq (distinct : Distinct models) (ordered : strategy ≠ .none)
    {first second : List ModelDef} (sub : first ⊆ models) (perm : first.Perm second) :
    sortCandidates first strategy = sortCandidates second strategy := by
  have sorted := (sortCandidates_perm first strategy).trans
    (perm.trans (sortCandidates_perm second strategy).symm)
  refine sorted.eq_of_pairwise ?_ (sortCandidates_sorted first strategy)
    (sortCandidates_sorted second strategy)
  intro a b mem_a mem_b le ge
  have inside : ∀ {model}, model ∈ first → model ∈ models := fun mem => sub mem
  refine distinct.eq_of_compareBy ordered (inside (mem_sortCandidates.mp mem_a))
    (inside (perm.mem_iff.mpr (mem_sortCandidates.mp mem_b))) ?_
  have swapped : compareBy strategy a b = (compareBy strategy b a).swap :=
    Std.OrientedCmp.eq_swap
  unfold Precedes at le ge
  rw [swapped] at le ⊢
  cases order : compareBy strategy b a with
  | eq => rfl
  | lt => rw [order] at le; cases le
  | gt => rw [order] at ge; cases ge

/-- The candidates are strictly in order. -/
theorem Distinct.sorted (distinct : Distinct models) (ordered : strategy ≠ .none)
    {candidates : List ModelDef} (sub : candidates ⊆ models) (once : candidates.Nodup) :
    (sortCandidates candidates strategy).Pairwise (Before strategy) := by
  have unequal : (sortCandidates candidates strategy).Nodup :=
    (sortCandidates_perm candidates strategy).nodup_iff.mpr once
  refine ((sortCandidates_sorted candidates strategy).and unequal).imp_of_mem ?_
  rintro a b mem_a mem_b ⟨le, apart⟩
  rw [← compareBy_eq_lt_iff]
  cases order : compareBy strategy a b with
  | lt => rfl
  | eq =>
    exact absurd (distinct.eq_of_compareBy ordered (sub (mem_sortCandidates.mp mem_a))
      (sub (mem_sortCandidates.mp mem_b)) order) apart
  | gt =>
    rw [Precedes, order] at le
    cases le

variable [Host] [NumberText]

/-- Candidates do not depend on the order of the models: those that pass the audit, by the
criteria of the strategy. -/
theorem candidates_order_independent (distinct : Distinct models)
    (requirements : CapabilityRequirements) (options : FilterOptions)
    (ordered : options.sortBy.getD .costAsc ≠ .none) :
    ∃ candidates : List ModelDef,
      candidates.Perm (models.filter fun model =>
        (checkCapabilities model requirements).isCapable) ∧
      candidates.Pairwise (Before (options.sortBy.getD .costAsc)) ∧
      ∀ other : List ModelDef, other.Perm models →
        filterCandidates other requirements options =
          if candidates = [] ∧ options.throwIfEmpty = some true then
            .error (capabilityMismatch other requirements)
          else .ok candidates := by
  have sub : models.filter (isCapable · requirements) ⊆ models := List.filter_subset_self _
  refine ⟨sortCandidates (models.filter (isCapable · requirements)) (options.sortBy.getD .costAsc),
    sortCandidates_perm _ _, distinct.sorted ordered sub (distinct.ids.of_map.filter _), ?_⟩
  intro other perm
  have one := distinct.sortCandidates_eq ordered sub (perm.symm.filter (isCapable · requirements))
  rw [filterCandidates, one]

end

/-! ## Two orders of one registry -/

section Example

attribute [local instance] asciiHost codePointCollation integerText

/-- A model of a cost, with no capability. -/
def plainModel (id : String) (cost : Int) : ModelDef where
  id
  provider := "groq"
  inputCostPerMTokMicro := cost
  outputCostPerMTokMicro := cost

/-- Of two models at one price the id decides, in whatever order they are registered. -/
theorem candidates_order_independent_pair :
    filterCandidates [plainModel "b" 1, plainModel "a" 1] {} {} =
      filterCandidates [plainModel "a" 1, plainModel "b" 1] {} {} := by
  have distinct : Distinct [plainModel "a" 1, plainModel "b" 1] :=
    { ids := by decide
      total := by decide }
  obtain ⟨candidates, -, -, same⟩ := candidates_order_independent distinct {} {} (by decide)
  rw [same _ (List.Perm.swap _ _ _), same _ (List.Perm.refl _)]
  simp only [reduceCtorEq, and_false, if_false]

end Example

end KeyCollective
