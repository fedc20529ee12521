import KeyCollective.Host
import KeyCollective.Lib.IndexedMap

/-!
# ModelRegistry

Models under their lower-cased, trimmed ids, and explicit aliases over the
aliases the models carry. Costs are microdollars per million tokens, and token limits
are whole numbers.
-/

namespace KeyCollective

variable [Host]

structure ModelDef where
  id : String
  provider : String
  logicalAliases : List String := []
  inputCostPerMTokMicro : Int
  outputCostPerMTokMicro : Int
  cacheReadCostPerMTokMicro : Int := 0
  contextWindow : Int := 0
  maxOutputTokens : Int := 0
  supportsTools : Bool := false
  supportsVision : Bool := false
  supportsJsonSchema : Bool := false
  isActive : Bool := true
deriving DecidableEq, Repr

structure StreamUsage where
  promptTokens : Int
  completionTokens : Int
  totalTokens : Int
  cachedTokens : Option Int := none
  reasoningTokens : Option Int := none
deriving DecidableEq, Repr

/-- `s.toLowerCase().trim()`. -/
def cleanName (s : String) : String := trim (Host.toLowerCase s)

def modelKey (model : ModelDef) : String := cleanName model.id

structure ModelRegistry where
  models : IndexedMap modelKey
  /-- Cleaned alias and canonical model id. -/
  aliasOverrides : IndexedMap (Prod.fst : String × String → String)

namespace ModelRegistry

def empty : ModelRegistry := ⟨.empty, .empty⟩

/-- A model without an id is a `TypeError`. -/
def registerModel (registry : ModelRegistry) (model : ModelDef) : Option ModelRegistry :=
  if isBlank model.id then none else some { registry with models := registry.models.set model }

def registerAlias (registry : ModelRegistry) (name canonicalModelId : String) :
    Option ModelRegistry :=
  if cleanName name = "" then none
  else some { registry with
    aliasOverrides := registry.aliasOverrides.set (cleanName name, trim canonicalModelId) }

variable (registry : ModelRegistry)

/-- Of the active models that carry the alias, the first of those with the lowest input cost. -/
def cheapestMatch (clean : String) : Option ModelDef :=
  registry.models.values.foldl
    (fun best model =>
      if model.isActive ∧ model.logicalAliases.any (fun a => cleanName a = clean) then
        match best with
        | none => some model
        | some cheapest =>
          if model.inputCostPerMTokMicro < cheapest.inputCostPerMTokMicro then some model
          else best
      else best)
    none

def resolveAlias (name : String) : Option String :=
  match (registry.aliasOverrides.get? (cleanName name)).filter fun entry => entry.2 ≠ "" with
  | some entry => some entry.2
  | none => (registry.cheapestMatch (cleanName name)).map ModelDef.id

def resolveModel (idOrAlias : String) (onlyActive : Bool := true) : Option ModelDef :=
  let clean := cleanName idOrAlias
  match registry.models.get? clean with
  | some directModel => if onlyActive ∧ ¬directModel.isActive then none else some directModel
  | none =>
    match (registry.resolveAlias clean).filter (· ≠ "") with
    | none => none
    | some resolvedId =>
      match registry.models.get? (cleanName resolvedId) with
      | some aliasModel => if onlyActive ∧ ¬aliasModel.isActive then none else some aliasModel
      | none => none

def microdollarMultiplier : Int := 1000000

def calculateCostForModel (model : ModelDef) (usage : StreamUsage) : Int :=
  let promptTokens := max 0 usage.promptTokens
  let completionTokens := max 0 usage.completionTokens
  let reasoningTokens := max 0 (usage.reasoningTokens.getD 0)
  let cachedTokens := max 0 (usage.cachedTokens.getD 0)
  let inputCost := (promptTokens * model.inputCostPerMTokMicro).tdiv microdollarMultiplier
  let outputCost := ((completionTokens + reasoningTokens) * model.outputCostPerMTokMicro).tdiv
    microdollarMultiplier
  let cacheCost := (cachedTokens * model.cacheReadCostPerMTokMicro).tdiv microdollarMultiplier
  inputCost + outputCost + cacheCost

/-- `none` is the error thrown for an unknown model. Every caller here catches it. -/
def calculateCost (modelIdOrAlias : String) (usage : StreamUsage) : Option Int :=
  (registry.resolveModel modelIdOrAlias).map fun model => calculateCostForModel model usage

end ModelRegistry

end KeyCollective
