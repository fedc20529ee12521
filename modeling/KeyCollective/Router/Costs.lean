import KeyCollective.Router.Registry

/-!
# What a request costs

The registry, the cost ledger and the proxy each price a request on their own. Costs are
microdollars, rates are per million tokens, and every part of a cost is rounded down.
-/

namespace KeyCollective

namespace ModelRegistry

structure CostBreakdown where
  promptCostMicrodollars : Int
  completionCostMicrodollars : Int
  reasoningCostMicrodollars : Int
  cacheReadCostMicrodollars : Int
  totalCostMicrodollars : Int
deriving DecidableEq, Repr

def breakdownForModel (model : ModelDef) (usage : StreamUsage) : CostBreakdown :=
  let promptTokens := max 0 usage.promptTokens
  let completionTokens := max 0 usage.completionTokens
  let reasoningTokens := max 0 (usage.reasoningTokens.getD 0)
  let cachedTokens := max 0 (usage.cachedTokens.getD 0)
  let promptCost := (promptTokens * model.inputCostPerMTokMicro).tdiv microdollarMultiplier
  let reasoningCost := (reasoningTokens * model.outputCostPerMTokMicro).tdiv microdollarMultiplier
  let completionCost :=
    (completionTokens * model.outputCostPerMTokMicro).tdiv microdollarMultiplier
  let cacheCost := (cachedTokens * model.cacheReadCostPerMTokMicro).tdiv microdollarMultiplier
  let totalOutputCost := ((completionTokens + reasoningTokens) * model.outputCostPerMTokMicro).tdiv
    microdollarMultiplier
  { promptCostMicrodollars := promptCost
    completionCostMicrodollars := completionCost
    reasoningCostMicrodollars := reasoningCost
    cacheReadCostMicrodollars := cacheCost
    totalCostMicrodollars := promptCost + totalOutputCost + cacheCost }

/-- `none` is the error thrown for an unknown model. -/
def calculateCostBreakdown [Host] (registry : ModelRegistry) (modelIdOrAlias : String)
    (usage : StreamUsage) : Option CostBreakdown :=
  (registry.resolveModel modelIdOrAlias).map fun model => breakdownForModel model usage

end ModelRegistry

namespace CostLedger

structure ModelPricing where
  inputCostPerMTokMicro : Int
  outputCostPerMTokMicro : Int
  cacheReadCostPerMTokMicro : Int

def calculateEventCostMicrodollars (tokens : StreamUsage) (pricing : ModelPricing) : Int :=
  let promptTokens := max 0 tokens.promptTokens
  let completionTokens := max 0 tokens.completionTokens
  let reasoningTokens := max 0 (tokens.reasoningTokens.getD 0)
  let cachedTokens := max 0 (tokens.cachedTokens.getD 0)
  let inputCost := (promptTokens * pricing.inputCostPerMTokMicro).tdiv
    ModelRegistry.microdollarMultiplier
  let outputCost := ((completionTokens + reasoningTokens) * pricing.outputCostPerMTokMicro).tdiv
    ModelRegistry.microdollarMultiplier
  let cacheCost := (cachedTokens * pricing.cacheReadCostPerMTokMicro).tdiv
    ModelRegistry.microdollarMultiplier
  inputCost + outputCost + cacheCost

end CostLedger

namespace CostCalculator

def tokensPerMillion : Int := 1000000

/-- A rate is `undefined` in what is not a pricing at all. -/
structure ModelPricing where
  promptMicrodollarsPerMillion : Option Int
  completionMicrodollarsPerMillion : Option Int
deriving DecidableEq, Repr

structure CostBreakdown where
  promptCostMicrodollars : Int
  completionCostMicrodollars : Int
  totalCostMicrodollars : Int
deriving DecidableEq, Repr

def pricing (prompt completion : Int) : ModelPricing := ⟨some prompt, some completion⟩

def defaultPricing : ModelPricing := pricing 1000000 3000000

/-- In the order of the source, which is the order the prefixes are tried in. -/
def defaultModelPricing : List (String × ModelPricing) :=
  [("gpt-4o", pricing 2500000 10000000),
    ("gpt-4o-mini", pricing 150000 600000),
    ("gpt-4-turbo", pricing 10000000 30000000),
    ("gpt-4", pricing 30000000 60000000),
    ("gpt-3.5-turbo", pricing 500000 1500000),
    ("o1", pricing 15000000 60000000),
    ("o1-mini", pricing 3000000 12000000),
    ("text-embedding-3-small", pricing 20000 0),
    ("text-embedding-3-large", pricing 130000 0),
    ("claude-3-5-sonnet", pricing 3000000 15000000),
    ("claude-3-5-haiku", pricing 800000 4000000),
    ("claude-3-opus", pricing 15000000 75000000),
    ("claude-3-sonnet", pricing 3000000 15000000),
    ("claude-3-haiku", pricing 250000 1250000),
    ("default", defaultPricing)]

/-- What any object has, of names in lower case. -/
def inheritedNames : List String := ["constructor", "__proto__"]

section

variable [Host]

def registerModelPricing (customModelPricing : IndexedMap (Prod.fst : String × ModelPricing → _))
    (model : String) (pricing : ModelPricing) :
    IndexedMap (Prod.fst : String × ModelPricing → _) :=
  customModelPricing.set (cleanName model, pricing)

def normalizeModelName (model : String) : String :=
  let normalized := (cleanName model).toList
  match normalized.dropWhile (· ≠ '/') with
  | _ :: rest => String.ofList rest
  | [] => String.ofList normalized

def getModelPricing (customModelPricing : IndexedMap (Prod.fst : String × ModelPricing → _))
    (model : String) : ModelPricing :=
  let normalized := normalizeModelName model
  match customModelPricing.get? normalized with
  | some custom => custom.2
  | none =>
    match defaultModelPricing.lookup normalized with
    | some pricing => pricing
    | none =>
      -- `in` finds what the table inherits, and that has no rates.
      if normalized ∈ inheritedNames then ⟨none, none⟩
      else
        match defaultModelPricing.find? fun entry =>
          entry.1 ≠ "default" ∧ startsWith normalized entry.1 with
        | some entry => entry.2
        | none => defaultPricing

end

/-- `none` is the `TypeError` of multiplying by an `undefined` rate. -/
def calculateTokenCost (tokens : Int) (ratePerMillionMicrodollars : Option Int)
    (roundUp : Bool := false) : Option Int :=
  let t := max 0 tokens
  if t ≤ 0 then some 0
  else
    match ratePerMillionMicrodollars with
    | none => none
    | some rate =>
      if rate ≤ 0 then some 0
      else
        let numerator := t * rate
        if roundUp then some ((numerator + (tokensPerMillion - 1)).tdiv tokensPerMillion)
        else some (numerator.tdiv tokensPerMillion)

variable [Host] (customModelPricing : IndexedMap (Prod.fst : String × ModelPricing → _))

def calculateCostBreakdown (model : String) (usage : StreamUsage) (roundUp : Bool := false) :
    Option CostBreakdown := do
  let pricing := getModelPricing customModelPricing model
  let promptCostMicrodollars ← calculateTokenCost usage.promptTokens
    pricing.promptMicrodollarsPerMillion roundUp
  let completionCostMicrodollars ← calculateTokenCost usage.completionTokens
    pricing.completionMicrodollarsPerMillion roundUp
  return ⟨promptCostMicrodollars, completionCostMicrodollars,
    promptCostMicrodollars + completionCostMicrodollars⟩

def calculateCost (model : String) (usage : StreamUsage) (roundUp : Bool := false) : Option Int :=
  (calculateCostBreakdown customModelPricing model usage roundUp).map
    CostBreakdown.totalCostMicrodollars

end CostCalculator

/-- No count is above the other's. -/
structure StreamUsage.Within (usage more : StreamUsage) : Prop where
  prompt : usage.promptTokens ≤ more.promptTokens
  completion : usage.completionTokens ≤ more.completionTokens
  reasoning : usage.reasoningTokens.getD 0 ≤ more.reasoningTokens.getD 0
  cached : usage.cachedTokens.getD 0 ≤ more.cachedTokens.getD 0

/-- No rate is negative. -/
structure ModelDef.Priced (model : ModelDef) : Prop where
  input : 0 ≤ model.inputCostPerMTokMicro
  output : 0 ≤ model.outputCostPerMTokMicro
  cacheRead : 0 ≤ model.cacheReadCostPerMTokMicro

def ModelDef.ledgerPricing (model : ModelDef) : CostLedger.ModelPricing where
  inputCostPerMTokMicro := model.inputCostPerMTokMicro
  outputCostPerMTokMicro := model.outputCostPerMTokMicro
  cacheReadCostPerMTokMicro := model.cacheReadCostPerMTokMicro

def ModelDef.proxyPricing (model : ModelDef) : CostCalculator.ModelPricing :=
  CostCalculator.pricing model.inputCostPerMTokMicro model.outputCostPerMTokMicro

namespace ModelRegistry

def CostBreakdown.componentsMicrodollars (breakdown : CostBreakdown) : Int :=
  breakdown.promptCostMicrodollars + breakdown.completionCostMicrodollars +
    breakdown.reasoningCostMicrodollars + breakdown.cacheReadCostMicrodollars

theorem part_monotone {tokens more rate : Int} (counted : 0 ≤ tokens) (fewer : tokens ≤ more)
    (priced : 0 ≤ rate) :
    (tokens * rate).tdiv microdollarMultiplier ≤ (more * rate).tdiv microdollarMultiplier := by
  have scaled : tokens * rate ≤ more * rate := mul_le_mul_of_nonneg_right fewer priced
  have positive : 0 ≤ tokens * rate := mul_nonneg counted priced
  rw [Int.tdiv_eq_ediv_of_nonneg positive, Int.tdiv_eq_ediv_of_nonneg (positive.trans scaled)]
  exact Int.ediv_le_ediv (by decide) scaled

/-- Two parts that are rounded down apart lose at most one more than their sum. -/
theorem part_add {tokens others rate : Int} (counted : 0 ≤ tokens) (too : 0 ≤ others)
    (priced : 0 ≤ rate) :
    ((tokens + others) * rate).tdiv microdollarMultiplier -
        ((tokens * rate).tdiv microdollarMultiplier +
          (others * rate).tdiv microdollarMultiplier) = 0 ∨
      ((tokens + others) * rate).tdiv microdollarMultiplier -
        ((tokens * rate).tdiv microdollarMultiplier +
          (others * rate).tdiv microdollarMultiplier) = 1 := by
  have first : 0 ≤ tokens * rate := mul_nonneg counted priced
  have second : 0 ≤ others * rate := mul_nonneg too priced
  rw [add_mul, Int.tdiv_eq_ediv_of_nonneg first, Int.tdiv_eq_ediv_of_nonneg second,
    Int.tdiv_eq_ediv_of_nonneg (add_nonneg first second), microdollarMultiplier]
  omega

theorem cost_monotone {model : ModelDef} (priced : model.Priced) {usage more : StreamUsage}
    (within : usage.Within more) :
    calculateCostForModel model usage ≤ calculateCostForModel model more := by
  have input := part_monotone (le_max_left 0 usage.promptTokens)
    (max_le_max_left 0 within.prompt) priced.input
  have output := part_monotone
    (add_nonneg (le_max_left 0 usage.completionTokens)
      (le_max_left 0 (usage.reasoningTokens.getD 0)))
    (add_le_add (max_le_max_left 0 within.completion) (max_le_max_left 0 within.reasoning))
    priced.output
  have cached := part_monotone (le_max_left 0 (usage.cachedTokens.getD 0))
    (max_le_max_left 0 within.cached) priced.cacheRead
  exact add_le_add (add_le_add input output) cached

theorem breakdown_total (model : ModelDef) (usage : StreamUsage) :
    (breakdownForModel model usage).totalCostMicrodollars = calculateCostForModel model usage :=
  rfl

/-- Completion and reasoning are rounded down together in the total and apart in the parts. -/
theorem breakdown_excess {model : ModelDef} (priced : model.Priced) (usage : StreamUsage) :
    (breakdownForModel model usage).totalCostMicrodollars -
        (breakdownForModel model usage).componentsMicrodollars = 0 ∨
      (breakdownForModel model usage).totalCostMicrodollars -
        (breakdownForModel model usage).componentsMicrodollars = 1 := by
  have output := part_add (le_max_left 0 usage.completionTokens)
    (le_max_left 0 (usage.reasoningTokens.getD 0)) priced.output
  simp only [breakdownForModel, CostBreakdown.componentsMicrodollars]
  omega

end ModelRegistry

namespace CostCalculator

/-- A negative rate costs nothing here. -/
theorem calculateTokenCost_eq (tokens : Int) {rate : Int} (priced : 0 ≤ rate) :
    calculateTokenCost tokens (some rate) =
      some ((max 0 tokens * rate).tdiv ModelRegistry.microdollarMultiplier) := by
  simp only [calculateTokenCost]
  split
  case isTrue =>
    have unused : max 0 tokens = 0 := by omega
    rw [unused, zero_mul, Int.zero_tdiv]
  case isFalse =>
    split
    case isTrue =>
      have free : rate = 0 := by omega
      rw [free, mul_zero, Int.zero_tdiv]
    case isFalse => rfl

theorem calculateCost_eq [Host]
    (customModelPricing : IndexedMap (Prod.fst : String × ModelPricing → _)) {name : String}
    {model : ModelDef} (priced : model.Priced)
    (same : getModelPricing customModelPricing name = model.proxyPricing) (usage : StreamUsage)
    (reasoning : usage.reasoningTokens.getD 0 = 0) (cached : usage.cachedTokens.getD 0 = 0) :
    calculateCost customModelPricing name usage =
      some (ModelRegistry.calculateCostForModel model usage) := by
  have prompt := calculateTokenCost_eq usage.promptTokens priced.input
  have completion := calculateTokenCost_eq usage.completionTokens priced.output
  simp only [calculateCost, calculateCostBreakdown, same, ModelDef.proxyPricing, pricing, prompt,
    completion, ModelRegistry.calculateCostForModel, reasoning, cached]
  simp

end CostCalculator

open ModelRegistry in
/-- What the formulas promise each other for one request of one model. -/
structure CostsAgree [Host] (registry : ModelRegistry) (modelIdOrAlias : String) (model : ModelDef)
    (usage : StreamUsage) : Prop where
  breakdown : ∃ breakdown, registry.calculateCostBreakdown modelIdOrAlias usage = some breakdown ∧
    breakdown.totalCostMicrodollars = calculateCostForModel model usage ∧
    (breakdown.totalCostMicrodollars - breakdown.componentsMicrodollars = 0 ∨
      breakdown.totalCostMicrodollars - breakdown.componentsMicrodollars = 1)
  event : CostLedger.calculateEventCostMicrodollars usage model.ledgerPricing =
    calculateCostForModel model usage
  proxy : usage.reasoningTokens.getD 0 = 0 → usage.cachedTokens.getD 0 = 0 →
    ∀ customModelPricing name,
      CostCalculator.getModelPricing customModelPricing name = model.proxyPricing →
        CostCalculator.calculateCost customModelPricing name usage =
          some (calculateCostForModel model usage)
  monotone : ∀ more : StreamUsage, usage.Within more →
    calculateCostForModel model usage ≤ calculateCostForModel model more

/-- One request costs the same wherever its cost is worked out, whatever the counts. A negative
count is taken as none. -/
theorem cost_formulas_agree [Host] (registry : ModelRegistry) (modelIdOrAlias : String)
    (model : ModelDef) (usage : StreamUsage)
    (resolved : registry.resolveModel modelIdOrAlias = some model) (priced : model.Priced) :
    CostsAgree registry modelIdOrAlias model usage where
  breakdown := by
    refine ⟨ModelRegistry.breakdownForModel model usage, ?_, ModelRegistry.breakdown_total _ _,
      ModelRegistry.breakdown_excess priced usage⟩
    rw [ModelRegistry.calculateCostBreakdown, resolved, Option.map_some]
  event := rfl
  proxy reasoning cached customModelPricing _ same :=
    CostCalculator.calculateCost_eq customModelPricing priced same usage reasoning cached
  monotone _ within := ModelRegistry.cost_monotone priced within

section

attribute [local instance] asciiHost

def largeModel : ModelDef where
  id := "gpt-4o"
  provider := "openai"
  inputCostPerMTokMicro := 2500000
  outputCostPerMTokMicro := 10000000
  cacheReadCostPerMTokMicro := 1250000

def largeModels : ModelRegistry := { ModelRegistry.empty with models := .set .empty largeModel }

theorem cost_formulas_agree_large :
    CostsAgree largeModels "GPT-4o" largeModel ⟨3, 5, 8, none, none⟩ :=
  cost_formulas_agree largeModels "GPT-4o" largeModel ⟨3, 5, 8, none, none⟩ (by decide +kernel)
    ⟨by decide, by decide, by decide⟩

end

end KeyCollective
