import KeyCollective.Number
import KeyCollective.Router.AliasMap

/-!
# CapabilityFilter

A model is audited against the requirements of a request. Of the models in a registry those
that pass are sorted by a strategy, the cheapest first unless another is chosen.
-/

namespace KeyCollective

/-- `localeCompare`, which the runtime supplies. -/
class Collation where
  localeCompare : String → String → Ordering

/-- Text by its code points. -/
@[reducible] def codePointCollation : Collation where
  localeCompare a b := compare (a.toList.map Char.toNat) (b.toList.map Char.toNat)

instance transCmp_codePoints : Std.TransCmp codePointCollation.localeCompare :=
  inferInstanceAs (Std.TransCmp (compareOn fun s : String => s.toList.map Char.toNat))

structure CapabilityRequirements where
  minContextLength : Option Number := none
  maxOutputTokens : Option Number := none
  requiresTools : Bool := false
  requiresVision : Bool := false
  requiresJsonSchema : Bool := false
  requiresStreaming : Option Bool := none
  provider : Option String := none
  maxCostPerMTokMicro : Option Int := none
  onlyActive : Option Bool := none
deriving DecidableEq

structure CapabilityCheckResult where
  isCapable : Bool
  modelId : String
  missingCapabilities : List String
  reasons : List String
deriving DecidableEq

section

variable [Host] [NumberText]

/-- The limit is set, positive, and more than the model has. -/
def exceeds (limit : Option Number) (has : Int) : Bool :=
  match limit with
  | some x => x.isPositive && x.above has
  | none => false

/-- The provider is named and is not the model's. -/
def otherProvider (provider : Option String) (model : ModelDef) : Bool :=
  match provider with
  | some name => !isBlank name && cleanName model.provider ≠ cleanName name
  | none => false

/-- The cost limit is set and below the model's input cost. -/
def costsMore (limit : Option Int) (model : ModelDef) : Bool :=
  match limit with
  | some cost => cost < model.inputCostPerMTokMicro
  | none => false

/-- The capabilities a model lacks, each with its reason. -/
def missing (model : ModelDef) (requirements : CapabilityRequirements) : List (String × String) :=
  let lacking (condition : Bool) (capability reason : String) : List (String × String) :=
    if condition then [(capability, "Model '" ++ model.id ++ "' " ++ reason)] else []
  let text (limit : Option Number) : String := (limit.map Number.text).getD ""
  lacking (requirements.onlyActive.getD true && !model.isActive) "active"
    "is inactive or deprecated" ++
  lacking (requirements.requiresTools && !model.supportsTools) "tools"
    "does not support tool/function calling" ++
  lacking (requirements.requiresVision && !model.supportsVision) "vision"
    "does not support multimodal vision inputs" ++
  lacking (requirements.requiresJsonSchema && !model.supportsJsonSchema) "json_schema"
    "does not support structured JSON schema outputs" ++
  lacking (exceeds requirements.minContextLength model.contextWindow) "context_length"
    ("context window (" ++ toString model.contextWindow ++
      ") is smaller than required context length (" ++ text requirements.minContextLength ++
      ")") ++
  lacking (exceeds requirements.maxOutputTokens model.maxOutputTokens) "max_output_tokens"
    ("max output limit (" ++ toString model.maxOutputTokens ++
      ") is smaller than requested output tokens (" ++ text requirements.maxOutputTokens ++
      ")") ++
  lacking (otherProvider requirements.provider model) "provider"
    ("provider '" ++ model.provider ++ "' does not match requested provider '" ++
      requirements.provider.getD "" ++ "'") ++
  lacking (costsMore requirements.maxCostPerMTokMicro model) "cost_limit"
    ("input cost (" ++ toString model.inputCostPerMTokMicro ++ " µ$) exceeds max allowed cost (" ++
      toString (requirements.maxCostPerMTokMicro.getD 0) ++ " µ$)")

def checkCapabilities (model : ModelDef) (requirements : CapabilityRequirements) :
    CapabilityCheckResult :=
  let missing := missing model requirements
  { isCapable := missing.isEmpty
    modelId := model.id
    missingCapabilities := missing.map Prod.fst
    reasons := missing.map Prod.snd }

def isCapable (model : ModelDef) (requirements : CapabilityRequirements) : Bool :=
  (checkCapabilities model requirements).isCapable

/-- A capable model passes every check of the audit. -/
theorem isCapable_iff (model : ModelDef) (requirements : CapabilityRequirements) :
    isCapable model requirements = true ↔
      (requirements.onlyActive.getD true = true → model.isActive = true) ∧
      (requirements.requiresTools = true → model.supportsTools = true) ∧
      (requirements.requiresVision = true → model.supportsVision = true) ∧
      (requirements.requiresJsonSchema = true → model.supportsJsonSchema = true) ∧
      exceeds requirements.minContextLength model.contextWindow = false ∧
      exceeds requirements.maxOutputTokens model.maxOutputTokens = false ∧
      otherProvider requirements.provider model = false ∧
      costsMore requirements.maxCostPerMTokMicro model = false := by
  have lacking (condition : Bool) (entry : String × String) :
      (if condition = true then [entry] else []) = [] ↔ condition = false := by
    cases condition <;> simp
  have needs (required has : Bool) :
      (required && !has) = false ↔ (required = true → has = true) := by
    cases required <;> cases has <;> decide
  simp only [isCapable, checkCapabilities, missing, List.isEmpty_iff, List.append_eq_nil_iff,
    lacking, needs, and_assoc]

end

/-! ## Sorting -/

inductive ModelSortStrategy where
  | costAsc
  | costDesc
  | contextDesc
  | none
deriving DecidableEq

section

variable [Collation]

/-- The order of a strategy. Only `none` has no order. -/
def compareBy (strategy : ModelSortStrategy) (a b : ModelDef) : Ordering :=
  match strategy with
  | .costAsc =>
    (compare a.inputCostPerMTokMicro b.inputCostPerMTokMicro).then <|
      (compare a.outputCostPerMTokMicro b.outputCostPerMTokMicro).then <|
      (compare b.contextWindow a.contextWindow).then (Collation.localeCompare a.id b.id)
  | .costDesc =>
    (compare b.inputCostPerMTokMicro a.inputCostPerMTokMicro).then
      (Collation.localeCompare b.id a.id)
  | .contextDesc =>
    (compare b.contextWindow a.contextWindow).then <|
      (compare a.inputCostPerMTokMicro b.inputCostPerMTokMicro).then
      (Collation.localeCompare a.id b.id)
  | .none => .eq

/-- The first model may stand before the second. -/
def Precedes (strategy : ModelSortStrategy) (a b : ModelDef) : Prop :=
  (compareBy strategy a b).isLE = true

instance (strategy : ModelSortStrategy) : DecidableRel (Precedes strategy) :=
  fun _ _ => inferInstanceAs (Decidable (_ = _))

/-- A stable sort. -/
def sortCandidates (candidates : List ModelDef) (strategy : ModelSortStrategy) : List ModelDef :=
  candidates.insertionSort (Precedes strategy)

theorem sortCandidates_perm (candidates : List ModelDef) (strategy : ModelSortStrategy) :
    (sortCandidates candidates strategy).Perm candidates :=
  List.perm_insertionSort _ _

theorem mem_sortCandidates {candidates : List ModelDef} {strategy : ModelSortStrategy}
    {model : ModelDef} : model ∈ sortCandidates candidates strategy ↔ model ∈ candidates :=
  (sortCandidates_perm candidates strategy).mem_iff

/-- A strategy orders consistently where the runtime compares text consistently. -/
instance [Std.TransCmp Collation.localeCompare] (strategy : ModelSortStrategy) :
    Std.TransCmp (compareBy strategy) :=
  have : Std.TransCmp fun a b : ModelDef => compare b.contextWindow a.contextWindow :=
    inferInstanceAs (Std.TransCmp fun a b => compareOn ModelDef.contextWindow b a)
  have : Std.TransCmp fun a b : ModelDef =>
      compare b.inputCostPerMTokMicro a.inputCostPerMTokMicro :=
    inferInstanceAs (Std.TransCmp fun a b => compareOn ModelDef.inputCostPerMTokMicro b a)
  have : Std.TransCmp fun a b : ModelDef => Collation.localeCompare a.id b.id :=
    { eq_swap := Std.OrientedCmp.eq_swap
      isLE_trans := Std.TransCmp.isLE_trans }
  have : Std.TransCmp fun a b : ModelDef => Collation.localeCompare b.id a.id :=
    { eq_swap := Std.OrientedCmp.eq_swap
      isLE_trans := fun first second => Std.TransCmp.isLE_trans second first }
  match strategy with
  | .costAsc =>
    inferInstanceAs (Std.TransCmp <| compareLex (compareOn ModelDef.inputCostPerMTokMicro) <|
      compareLex (compareOn ModelDef.outputCostPerMTokMicro) <|
      compareLex (fun a b : ModelDef => compare b.contextWindow a.contextWindow)
        fun a b : ModelDef => Collation.localeCompare a.id b.id)
  | .costDesc =>
    inferInstanceAs (Std.TransCmp <|
      compareLex (fun a b : ModelDef => compare b.inputCostPerMTokMicro a.inputCostPerMTokMicro)
        fun a b : ModelDef => Collation.localeCompare b.id a.id)
  | .contextDesc =>
    inferInstanceAs (Std.TransCmp <|
      compareLex (fun a b : ModelDef => compare b.contextWindow a.contextWindow) <|
      compareLex (compareOn ModelDef.inputCostPerMTokMicro)
        fun a b : ModelDef => Collation.localeCompare a.id b.id)
  | .none => { eq_swap := rfl, isLE_trans := fun _ _ => rfl }

theorem sortCandidates_sorted [Std.TransCmp Collation.localeCompare] (candidates : List ModelDef)
    (strategy : ModelSortStrategy) :
    (sortCandidates candidates strategy).Pairwise (Precedes strategy) := by
  have total : Std.Total (Precedes strategy) := by
    constructor
    intro a b
    have swapped : compareBy strategy a b = (compareBy strategy b a).swap :=
      Std.OrientedCmp.eq_swap
    unfold Precedes
    rw [swapped]
    cases compareBy strategy b a <;> simp
  have trans : IsTrans ModelDef (Precedes strategy) :=
    ⟨fun _ _ _ first second => Std.TransCmp.isLE_trans first second⟩
  exact List.pairwise_insertionSort _ _

end

end KeyCollective
