import KeyCollective.Arithmetic
import KeyCollective.Proxy.StreamUsage
import KeyCollective.Router.Costs

/-!
# What the details of a usage cost

In OpenAI's format the cached tokens are some of the prompt's and the reasoning tokens some of
the completion's. The registry prices prompt and completion whole and the details on top.
-/

namespace KeyCollective

/-! ## Records without their details -/

namespace Json

/-- An object without some of its fields. -/
def without (keys : List String) : Json → Json
  | .object fields => .object (fields.filter fun field => field.1 ∉ keys)
  | value => value

/-- An object with one field changed, where it has it. -/
def modify (key : String) (f : Json → Json) : Json → Json
  | .object fields => .object (fields.map fun field =>
      (field.1, if field.1 = key then f field.2 else field.2))
  | value => value

theorem get_without {keys : List String} {key : String} (kept : key ∉ keys) (value : Json) :
    (value.without keys).get key = value.get key := by
  cases value with
  | object fields =>
    simp only [without, get, List.find?_filter]
    congr 2
    funext field
    by_cases same : field.1 = key
    · simp [same, kept]
    · simp [same]
  | null | bool | number | string | array => rfl

theorem get_without_of_mem {keys : List String} {key : String} (dropped : key ∈ keys)
    (value : Json) : (value.without keys).get key = none := by
  cases value with
  | object fields =>
    have absent : (fields.filter fun field => field.1 ∉ keys).find?
        (fun field => field.1 = key) = none := by
      rw [List.find?_eq_none]
      intro field mem same
      have kept := of_decide_eq_true (List.mem_filter.mp mem).2
      rw [of_decide_eq_true same] at kept
      exact kept dropped
    simp only [without, get, absent, Option.map_none]
  | null | bool | number | string | array => rfl

theorem isObject_without (keys : List String) (value : Json) :
    (value.without keys).isObject = value.isObject := by
  cases value <;> rfl

theorem isObject_modify (key : String) (f : Json → Json) (value : Json) :
    (value.modify key f).isObject = value.isObject := by
  cases value <;> rfl

theorem get_modify (key : String) (f : Json → Json) (value : Json) (other : String) :
    (value.modify key f).get other =
      (value.get other).map fun field => if other = key then f field else field := by
  cases value with
  | object fields =>
    simp only [modify, get, List.find?_map, Function.comp_def, Option.map_map]
    cases found : fields.find? fun field => field.1 = other with
    | none => rfl
    | some field =>
      have same : field.1 = other := by simpa using List.find?_some found
      simp only [Option.map_some, same]
  | null | bool | number | string | array => rfl

theorem get_modify_of_ne {key other : String} (ne : other ≠ key) (f : Json → Json)
    (value : Json) : (value.modify key f).get other = value.get other := by
  rw [get_modify]
  simp [ne]

/-- What a function that keeps objects does to a field. -/
theorem getObject_modify {f : Json → Json} (keeps : ∀ value, (f value).isObject = value.isObject)
    (key : String) (value : Json) :
    (value.modify key f).getObject key = (value.getObject key).map f := by
  rw [getObject, getObject, get_modify]
  cases value.get key with
  | none => rfl
  | some field => cases object : field.isObject <;> simp [Option.filter_some, keeps, object]

end Json

namespace Sse

def detailKeys : List String := ["prompt_tokens_details", "completion_tokens_details"]

/-- A payload whose usage has no details, wherever it stands. -/
def withoutDetails (payload : Json) : Json :=
  (payload.modify "usage" (·.without detailKeys)).modify "x_groq"
    (·.modify "usage" (·.without detailKeys))

theorem get_withoutDetails {key : String} (other : key ≠ "usage" ∧ key ≠ "x_groq")
    (payload : Json) : (withoutDetails payload).get key = payload.get key := by
  rw [withoutDetails, Json.get_modify_of_ne other.2, Json.get_modify_of_ne other.1]

theorem usageObject_withoutDetails (payload : Json) :
    usageObject (withoutDetails payload) =
      (usageObject payload).map (·.without detailKeys) := by
  have stripped (value : Json) :=
    Json.getObject_modify (Json.isObject_without detailKeys) "usage" value
  have own : (withoutDetails payload).getObject "usage" =
      (payload.getObject "usage").map (·.without detailKeys) := by
    rw [← stripped, Json.getObject, withoutDetails, Json.get_modify_of_ne (by decide)]
    rfl
  have groq : (withoutDetails payload).getObject "x_groq" =
      (payload.getObject "x_groq").map (·.modify "usage" (·.without detailKeys)) := by
    rw [withoutDetails, Json.getObject_modify (Json.isObject_modify _ _), Json.getObject,
      Json.get_modify_of_ne (by decide)]
    rfl
  rw [usageObject, own, groq, usageObject]
  cases payload.getObject "usage" with
  | some usage => rfl
  | none =>
    cases payload.getObject "x_groq" with
    | none => rfl
    | some groq => exact stripped groq

/-- The places of the other providers are not touched. -/
theorem Holds.withoutDetails {payload : Json} {usage metadata message : Option Json}
    (holds : Holds payload usage metadata message) :
    Holds (withoutDetails payload) (usage.map (·.without detailKeys)) metadata message := by
  obtain ⟨usage_eq, metadata_eq, message_eq, cohere, bedrock, root⟩ := holds
  have object {key : String} (other : key ≠ "usage" ∧ key ≠ "x_groq") :
      (Sse.withoutDetails payload).getObject key = payload.getObject key := by
    rw [Json.getObject, get_withoutDetails other]
    rfl
  have number {key : String} (other : key ≠ "usage" ∧ key ≠ "x_groq") :
      (Sse.withoutDetails payload).getNumber key = payload.getNumber key := by
    rw [Json.getNumber, get_withoutDetails other]
    rfl
  constructor
  · rw [usageObject_withoutDetails, usage_eq]
  · rw [object (by decide), metadata_eq]
  · rw [messageObject, object (by decide)]
    exact message_eq
  · rw [cohereObject, object (by decide)]
    exact cohere
  · rw [bedrockObject, object (by decide)]
    exact bedrock
  · rw [rootUsage, number (by decide), number (by decide), number (by decide)]
    exact root

namespace OpenAiUsage

variable (record : OpenAiUsage)

/-- The counts that include the details. -/
def withoutDetails : OpenAiUsage := { record with cachedTokens := none, reasoningTokens := none }

variable {record}

theorem Of.withoutDetails {usage : Json} (of : record.Of usage) :
    record.withoutDetails.Of (usage.without detailKeys) := by
  obtain ⟨prompt, completion, total, camel, cached, reasoning⟩ := of
  have number {key : String} (kept : key ∉ detailKeys) {n : Option ℕ}
      (has : HasCount usage key n) : HasCount (usage.without detailKeys) key n := by
    rw [HasCount, Json.getNumber, Json.get_without kept]
    exact has
  have removed {details key : String} {n : Option ℕ} (dropped : details ∈ detailKeys)
      (kept : key ∉ detailKeys) (has : HasDetail usage details key n) :
      HasDetail (usage.without detailKeys) details key none := by
    refine ⟨?_, number kept has.outside⟩
    rw [Json.getObject, Json.get_without_of_mem dropped]
    rfl
  exact ⟨number (by decide) prompt, number (by decide) completion, number (by decide) total,
    number (by decide) camel, removed (by decide) (by decide) cached,
    removed (by decide) (by decide) reasoning⟩

theorem Carries.withoutDetails {payload : Json} (carries : record.Carries payload) :
    record.withoutDetails.Carries (Sse.withoutDetails payload) := by
  obtain ⟨usage, of, holds⟩ := carries
  exact ⟨_, of.withoutDetails, holds.withoutDetails⟩

end OpenAiUsage

end Sse

/-! ## Prices -/

namespace ModelRegistry

open Sse

/-- `BigInt(Math.max(0, Math.trunc(x)))`. None is the `RangeError` of what is no integer. -/
def bigIntCount (x : Number) : Option Int :=
  match x.trunc.max0 with
  | .finite value => some value.num
  | _ => none

/-- `calculateCostForModel` of a usage as it was extracted. `Math.trunc(undefined)` is `NaN`. -/
def calculateCostForUsage (model : ModelDef) (usage : PartialUsage) : Option Int := do
  let promptTokens ← bigIntCount (usage.promptTokens.getD .nan)
  let completionTokens ← bigIntCount (usage.completionTokens.getD .nan)
  let reasoningTokens ← bigIntCount (usage.reasoningTokens.getD (.finite 0))
  let cachedTokens ← bigIntCount (usage.cachedTokens.getD (.finite 0))
  return calculateCostForModel model
    { promptTokens, completionTokens, totalTokens := promptTokens + completionTokens,
      cachedTokens := some cachedTokens, reasoningTokens := some reasoningTokens }

/-- The cost of the usage in a payload. -/
def costOfPayload (model : ModelDef) (payload : Json) : Option Int :=
  (extractUsageFromPayload payload).bind (calculateCostForUsage model)

/-- The whole microdollars in a price per million. -/
def wholeMicrodollars (price : Int) : Int := price.tdiv microdollarMultiplier

variable (model : ModelDef) (record : OpenAiUsage)

def cachedPrice : Int := record.cachedTokens.getD 0 * model.cacheReadCostPerMTokMicro

/-- The price of the reasoning tokens, on top of what rounding takes off the completion's. -/
def reasoningPrice : Int :=
  (record.completionTokens * model.outputCostPerMTokMicro).tmod microdollarMultiplier +
    record.reasoningTokens.getD 0 * model.outputCostPerMTokMicro

/-- The details come to no whole microdollar. -/
def DetailsRoundAway : Prop :=
  wholeMicrodollars (reasoningPrice model record) + wholeMicrodollars (cachedPrice model record) ≤ 0

/-- With the details of its usage, a payload costs no more than without. -/
def DetailsNeverRaise (payload : Json) : Prop :=
  ∃ cost plain, costOfPayload model payload = some cost ∧
    costOfPayload model (withoutDetails payload) = some plain ∧ cost ≤ plain

theorem bigIntCount_tokenCount (n : ℕ) : bigIntCount (tokenCount n) = some (n : Int) := by
  have natural : (tokenCount n).atLeast 0 = true := decide_eq_true (Nat.cast_nonneg n)
  have whole : (tokenCount n).IsWhole := ⟨n, by norm_cast⟩
  rw [bigIntCount, Number.trunc_of_isWhole whole, Number.max0_of_atLeast natural]
  rfl

theorem bigIntCount_detail (n : Option ℕ) :
    bigIntCount ((n.map tokenCount).getD (.finite 0)) = some (n.getD 0 : Int) := by
  cases n with
  | none => rfl
  | some n => exact bigIntCount_tokenCount n

variable {record}

theorem costOfPayload_carries {payload : Json} (carries : record.Carries payload) :
    costOfPayload model payload = some
      (wholeMicrodollars (record.promptTokens * model.inputCostPerMTokMicro) +
        wholeMicrodollars
          ((record.completionTokens + record.reasoningTokens.getD 0) *
            model.outputCostPerMTokMicro) +
        wholeMicrodollars (cachedPrice model record)) := by
  rw [costOfPayload, carries.extract, Option.bind_some, calculateCostForUsage]
  simp only [OpenAiUsage.update, Option.getD_some, bigIntCount_tokenCount, bigIntCount_detail,
    Option.bind_eq_bind, Option.bind_some, Option.pure_def, calculateCostForModel,
    Int.natCast_nonneg, max_eq_right]
  rfl

/-- Two prices of one sign are rounded one after the other, the second on what is left of the
first. -/
theorem wholeMicrodollars_add {first second : Int}
    (sign : 0 ≤ first ∧ 0 ≤ second ∨ first ≤ 0 ∧ second ≤ 0) :
    wholeMicrodollars (first + second) =
      wholeMicrodollars first + wholeMicrodollars (first.tmod microdollarMultiplier + second) := by
  have natural {first second : Int} (one : 0 ≤ first) (two : 0 ≤ second) :
      (first + second).tdiv microdollarMultiplier =
        first.tdiv microdollarMultiplier +
          (first.tmod microdollarMultiplier + second).tdiv microdollarMultiplier := by
    rw [Int.tmod_eq_emod_of_nonneg one, Int.tdiv_eq_ediv_of_nonneg one,
      Int.tdiv_eq_ediv_of_nonneg (by omega), Int.tdiv_eq_ediv_of_nonneg
        (add_nonneg (Int.emod_nonneg _ (by decide)) two), microdollarMultiplier]
    omega
  unfold wholeMicrodollars
  rcases sign with ⟨one, two⟩ | ⟨one, two⟩
  · exact natural one two
  · have flipped := natural (Int.neg_nonneg_of_nonpos one) (Int.neg_nonneg_of_nonpos two)
    rw [← Int.neg_add, Int.neg_tmod, ← Int.neg_add, Int.neg_tdiv, Int.neg_tdiv, Int.neg_tdiv,
      ← Int.neg_add] at flipped
    exact Int.neg_inj.mp flipped

variable (record)

/-- The reasoning tokens are rounded on top of the completion. -/
theorem outputPrice_eq :
    wholeMicrodollars ((record.completionTokens + record.reasoningTokens.getD 0) *
        model.outputCostPerMTokMicro) =
      wholeMicrodollars (record.completionTokens * model.outputCostPerMTokMicro) +
        wholeMicrodollars (reasoningPrice model record) := by
  have counts : 0 ≤ (record.completionTokens : Int) ∧ 0 ≤ (record.reasoningTokens.getD 0 : Int) :=
    ⟨Int.natCast_nonneg _, Int.natCast_nonneg _⟩
  rw [add_mul]
  refine wholeMicrodollars_add ?_
  rcases le_total 0 model.outputCostPerMTokMicro with priced | credited
  · exact .inl ⟨mul_nonneg counts.1 priced, mul_nonneg counts.2 priced⟩
  · exact .inr ⟨mul_nonpos_of_nonneg_of_nonpos counts.1 credited,
      mul_nonpos_of_nonneg_of_nonpos counts.2 credited⟩

/-- Where no rate is negative, neither of the details may reach a microdollar. -/
theorem detailsRoundAway_priced (priced : model.Priced) :
    DetailsRoundAway model record ↔
      reasoningPrice model record < microdollarMultiplier ∧
        cachedPrice model record < microdollarMultiplier := by
  have output : 0 ≤ record.completionTokens * model.outputCostPerMTokMicro :=
    mul_nonneg (Int.natCast_nonneg _) priced.output
  have reasoning : 0 ≤ reasoningPrice model record := by
    refine add_nonneg ?_ (mul_nonneg (Int.natCast_nonneg _) priced.output)
    rw [Int.tmod_eq_emod_of_nonneg output]
    exact Int.emod_nonneg _ (by decide)
  have cached : 0 ≤ cachedPrice model record :=
    mul_nonneg (Int.natCast_nonneg _) priced.cacheRead
  unfold DetailsRoundAway wholeMicrodollars
  rw [Int.tdiv_eq_ediv_of_nonneg reasoning, Int.tdiv_eq_ediv_of_nonneg cached,
    microdollarMultiplier]
  omega

/-- The details raise the cost of a payload unless they come to no whole microdollar. -/
theorem details_never_raise_iff (payload : Json) (carries : record.Carries payload) :
    (DetailsNeverRaise model payload ↔ DetailsRoundAway model record) ∧
      (model.Priced → (DetailsRoundAway model record ↔
        reasoningPrice model record < microdollarMultiplier ∧
          cachedPrice model record < microdollarMultiplier)) := by
  refine ⟨?_, detailsRoundAway_priced model record⟩
  have cost := costOfPayload_carries model carries
  have plain := costOfPayload_carries model carries.withoutDetails
  have nothing : cachedPrice model record.withoutDetails = 0 := zero_mul _
  have whole : wholeMicrodollars 0 = 0 := rfl
  rw [outputPrice_eq] at cost
  simp only [OpenAiUsage.withoutDetails, Option.getD_none, Nat.cast_zero, add_zero] at plain
  change _ = some (_ + wholeMicrodollars (cachedPrice model record.withoutDetails)) at plain
  rw [nothing, whole, add_zero] at plain
  unfold DetailsNeverRaise DetailsRoundAway
  rw [cost, plain]
  constructor
  · rintro ⟨_, _, ⟨⟩, ⟨⟩, le⟩
    omega
  · intro away
    exact ⟨_, _, rfl, rfl, by omega⟩

section Example

/-- A usage with so many tokens of the prompt cached and of the completion spent on reasoning. -/
def detailedUsage (prompt completion cached reasoning : ℕ) : Json :=
  .object
    [("prompt_tokens", .number (.finite prompt)), ("completion_tokens", .number (.finite completion)),
      ("prompt_tokens_details", .object [("cached_tokens", .number (.finite cached))]),
      ("completion_tokens_details", .object [("reasoning_tokens", .number (.finite reasoning))])]

def detailedPayload (prompt completion cached reasoning : ℕ) : Json :=
  .object [("usage", detailedUsage prompt completion cached reasoning)]

theorem detailedPayload_carries (prompt completion cached reasoning : ℕ) :
    OpenAiUsage.Carries ⟨prompt, completion, none, some cached, some reasoning⟩
      (detailedPayload prompt completion cached reasoning) :=
  ⟨detailedUsage prompt completion cached reasoning,
    ⟨rfl, rfl, rfl, rfl, ⟨rfl, rfl⟩, ⟨rfl, rfl⟩⟩, ⟨rfl, rfl, rfl, rfl, rfl, rfl⟩⟩

def smallModel : ModelDef where
  id := "gpt-4o-mini"
  provider := "openai"
  inputCostPerMTokMicro := 150000
  outputCostPerMTokMicro := 600000
  cacheReadCostPerMTokMicro := 75000

/-- Thirteen cached tokens cost 0.975 microdollars, and one of reasoning 0.6. -/
theorem details_never_raise_small :
    smallModel.cacheReadCostPerMTokMicro ≤ smallModel.inputCostPerMTokMicro ∧
      DetailsNeverRaise smallModel (detailedPayload 100 5 13 1) :=
  ⟨by decide, (details_never_raise_iff smallModel ⟨100, 5, none, some 13, some 1⟩
    (detailedPayload 100 5 13 1) (detailedPayload_carries 100 5 13 1)).1.mpr
      (by unfold DetailsRoundAway; decide)⟩

/-- A thousand tokens, all of them cached, answered by as many hundred tokens of reasoning: the
cached tokens cost half as much again, and the reasoning tokens are paid twice. -/
theorem details_raise :
    largeModel.cacheReadCostPerMTokMicro ≤ largeModel.inputCostPerMTokMicro ∧
      costOfPayload largeModel (detailedPayload 1000 100 1000 100) = some 5750 ∧
      costOfPayload largeModel (withoutDetails (detailedPayload 1000 100 1000 100)) = some 3500 ∧
      ¬DetailsNeverRaise largeModel (detailedPayload 1000 100 1000 100) := by
  have cost : costOfPayload largeModel (detailedPayload 1000 100 1000 100) = some 5750 := by
    decide
  have plain : costOfPayload largeModel (withoutDetails (detailedPayload 1000 100 1000 100)) =
      some 3500 := by
    decide
  refine ⟨by decide, cost, plain, ?_⟩
  rintro ⟨_, _, dear, cheap, le⟩
  rw [cost] at dear
  rw [plain] at cheap
  cases dear
  cases cheap
  exact absurd le (by decide)

end Example

end ModelRegistry

end KeyCollective
