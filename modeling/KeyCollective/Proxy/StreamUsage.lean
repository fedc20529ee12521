import KeyCollective.Proxy.Transformer

/-!
# The usage of a stream

A streamed completion spreads its usage over events, and a body has it in one place. The
transformer keeps of each count the last one it was given; what a body says is read at once.
-/

namespace KeyCollective.Sse

/-! ## Updates in turn -/

/-- Of each field the last value given. -/
def merged (updates : List PartialUsage) : PartialUsage := updates.foldl PartialUsage.assign {}

theorem merged_concat (updates : List PartialUsage) (update : PartialUsage) :
    merged (updates ++ [update]) = (merged updates).assign update := by
  rw [merged, List.foldl_append]
  rfl

section

variable {field : PartialUsage → Option Number} {updates : List PartialUsage} {last : PartialUsage}
  (assigned : ∀ result later : PartialUsage,
    field (result.assign later) = (field later).or (field result))
  (empty : field {} = none)

include assigned empty

theorem merged_none (absent : ∀ update ∈ updates, field update = none) :
    field (merged updates) = none := by
  induction updates using List.reverseRecOn with
  | nil => exact empty
  | append_singleton updates update ih =>
    rw [merged_concat, assigned, absent update (by simp), Option.none_or]
    exact ih fun earlier mem => absent earlier (by simp [mem])

/-- A field that no update has before the last one lacks it is the last one's. -/
theorem merged_last (covers : field last = none → ∀ update ∈ updates, field update = none) :
    field (merged (updates ++ [last])) = field last := by
  rw [merged_concat, assigned]
  cases given : field last with
  | none =>
    rw [Option.none_or]
    exact merged_none assigned empty (covers given)
  | some value => rfl

end

/-- The counters are the last values given, and zero before one is. -/
theorem counters_foldl (updates : List PartialUsage) :
    (updates.foldl applyUsageUpdate {}).promptTokens =
        (merged updates).promptTokens.getD (.finite 0) ∧
      (updates.foldl applyUsageUpdate {}).completionTokens =
        (merged updates).completionTokens.getD (.finite 0) ∧
      (updates.foldl applyUsageUpdate {}).cachedTokens =
        (merged updates).cachedTokens.getD (.finite 0) ∧
      (updates.foldl applyUsageUpdate {}).reasoningTokens =
        (merged updates).reasoningTokens.getD (.finite 0) := by
  have field (later earlier : Option Number) :
      later.getD (earlier.getD (.finite 0)) = (later.or earlier).getD (.finite 0) := by
    cases later <;> rfl
  induction updates using List.reverseRecOn with
  | nil => exact ⟨rfl, rfl, rfl, rfl⟩
  | append_singleton updates update ih =>
    obtain ⟨prompt, completion, cached, reasoning⟩ := ih
    rw [List.foldl_append, merged_concat]
    simp only [List.foldl_cons, List.foldl_nil, applyUsageUpdate, PartialUsage.assign, prompt,
      completion, cached, reasoning, field, and_self]

theorem inspectPayload_counters (payloads : List Json) (parser : Parser) :
    (payloads.foldl inspectPayload parser).counters =
      (payloads.filterMap extractUsageFromPayload).foldl applyUsageUpdate parser.counters := by
  induction payloads generalizing parser with
  | nil => rfl
  | cons payload rest ih =>
    rw [List.foldl_cons, ih, List.filterMap_cons]
    unfold inspectPayload
    cases extractUsageFromPayload payload <;> rfl

/-- The usage a stream of payloads ends with. -/
def streamed (payloads : List Json) : Option NumberUsage :=
  (payloads.foldl inspectPayload {}).counters.usage

/-! ## The client's counters

The client keeps the same counters of a stream in whole numbers.
-/

def count (n : Int) : Number := .finite n

def ofUpdate (update : UsageUpdate) : PartialUsage where
  promptTokens := update.promptTokens.map count
  completionTokens := update.completionTokens.map count
  totalTokens := update.totalTokens.map count
  cachedTokens := update.cachedTokens.map count
  reasoningTokens := update.reasoningTokens.map count

def ofUsage (usage : StreamUsage) : NumberUsage where
  promptTokens := count usage.promptTokens
  completionTokens := count usage.completionTokens
  totalTokens := count usage.totalTokens
  cachedTokens := usage.cachedTokens.map count
  reasoningTokens := usage.reasoningTokens.map count

/-- The transformer's counters are the client's. -/
structure Refines (counters : UsageCounters) (client : StreamCounters) : Prop where
  prompt : counters.promptTokens = count client.promptTokens
  completion : counters.completionTokens = count client.completionTokens
  cached : counters.cachedTokens = count client.cachedTokens
  reasoning : counters.reasoningTokens = count client.reasoningTokens
  usage : counters.usage = client.usage.map ofUsage

theorem count_add (m n : Int) : (count m).add (count n) = count (m + n) := by
  simp [count, Number.add]

theorem getD_count (n : Option Int) (m : Int) : (n.map count).getD (count m) = count (n.getD m) := by
  cases n <;> rfl

theorem count_positive (n : Int) :
    (if (count n).isPositive then some (count n) else none) =
      (if 0 < n then some n else none).map count := by
  by_cases positive : 0 < n <;> simp [count, Number.isPositive, positive]

theorem Refines.apply {counters : UsageCounters} {client : StreamCounters}
    (refines : Refines counters client) (update : UsageUpdate) :
    Refines (applyUsageUpdate counters (ofUpdate update))
      (KeyCollective.applyUsageUpdate client update) := by
  obtain ⟨prompt, completion, cached, reasoning, -⟩ := refines
  constructor
  case usage =>
    simp only [applyUsageUpdate, KeyCollective.applyUsageUpdate, ofUpdate, ofUsage, prompt,
      completion, cached, reasoning, getD_count, count_add, count_positive, Option.map_some]
  all_goals
    simp only [applyUsageUpdate, KeyCollective.applyUsageUpdate, ofUpdate, prompt, completion,
      cached, reasoning, getD_count]

/-- The client's usage of a stream is what the transformer read of its payloads. -/
theorem streamed_eq_streamUsage {payloads : List Json} {updates : List UsageUpdate}
    (read : payloads.filterMap extractUsageFromPayload = updates.map ofUpdate) :
    streamed payloads = (streamUsage updates).map ofUsage := by
  have refines : ∀ updates : List UsageUpdate,
      Refines ((updates.map ofUpdate).foldl applyUsageUpdate {})
        (updates.foldl KeyCollective.applyUsageUpdate {}) := by
    intro updates
    induction updates using List.reverseRecOn with
    | nil => exact ⟨rfl, rfl, rfl, rfl, rfl⟩
    | append_singleton updates update ih =>
      rw [List.map_append, List.foldl_append, List.foldl_append]
      exact ih.apply update
  rw [streamed, inspectPayload_counters, read]
  exact (refines updates).usage

/-! ## The places of a payload -/

/-- The payload has these usage objects, and usage nowhere else. -/
structure Holds (payload : Json) (usage metadata message : Option Json) : Prop where
  usage : usageObject payload = usage
  metadata : payload.getObject "usageMetadata" = metadata
  message : messageObject payload = message
  cohere : cohereObject payload = none
  bedrock : bedrockObject payload = none
  root : rootUsage payload = {}

theorem PartialUsage.assign_empty (result : PartialUsage) : result.assign {} = result := rfl

theorem PartialUsage.empty_assign (later : PartialUsage) :
    ({} : PartialUsage).assign later = later := by
  simp [assign]

theorem getObject_none {payload : Json} (value : payload.isObject = false) (key : String) :
    payload.getObject key = none := by
  cases payload with
  | object fields => cases value
  | null | bool | number | string | array => rfl

/-- What the three places come to. -/
def placed (usage metadata message : Option Json) : PartialUsage :=
  ((readPlace usage standardUsage).assign (readPlace metadata geminiUsage)).assign
    (readPlace message anthropicUsage)

theorem extract_holds {payload : Json} {usage metadata message : Option Json}
    (holds : Holds payload usage metadata message) :
    extractUsageFromPayload payload =
      if (placed usage metadata message).found then some (placed usage metadata message)
      else none := by
  have provided : providerUsage payload = placed usage metadata message := by
    rw [providerUsage, holds.usage, holds.metadata, holds.message, holds.cohere, holds.bedrock]
    rfl
  unfold extractUsageFromPayload
  rw [provided, holds.root]
  simp only [PartialUsage.assign_empty]
  cases object : payload.isObject with
  | true =>
    by_cases found : (placed usage metadata message).found = true <;> simp [found]
  | false =>
    obtain ⟨usage_eq, metadata_eq, message_eq, -, -, -⟩ := holds
    rw [usageObject, getObject_none object, getObject_none object] at usage_eq
    rw [getObject_none object] at metadata_eq
    rw [messageObject, getObject_none object] at message_eq
    subst usage_eq metadata_eq message_eq
    rfl

/-- A payload without usage. -/
def Silent (payload : Json) : Prop := Holds payload none none none

theorem extract_silent {payload : Json} (silent : Silent payload) :
    extractUsageFromPayload payload = none :=
  extract_holds silent

/-- The payloads carry the records in this order, and those between carry nothing. -/
inductive Carrying {R : Type} (carries : R → Json → Prop) : List R → List Json → Prop
  | ended : Carrying carries [] []
  | silent {records payloads payload} (silent : Silent payload)
      (later : Carrying carries records payloads) : Carrying carries records (payload :: payloads)
  | usage {record records payload payloads} (here : carries record payload)
      (later : Carrying carries records payloads) :
      Carrying carries (record :: records) (payload :: payloads)

theorem Carrying.nil {R : Type} {carries : R → Json → Prop} {payloads : List Json}
    (carrying : Carrying carries [] payloads) :
    payloads.filterMap extractUsageFromPayload = [] := by
  generalize ended : ([] : List R) = records at carrying
  induction carrying with
  | ended => rfl
  | silent silent later ih =>
    rw [List.filterMap_cons, extract_silent silent]
    exact ih ended
  | usage => cases ended

theorem Carrying.cons {R : Type} {carries : R → Json → Prop} {record : R} {records : List R}
    {payloads : List Json} (carrying : Carrying carries (record :: records) payloads) :
    ∃ payload later, carries record payload ∧ Carrying carries records later ∧
      payloads.filterMap extractUsageFromPayload =
        (extractUsageFromPayload payload).toList ++ later.filterMap extractUsageFromPayload := by
  generalize first : record :: records = all at carrying
  induction carrying with
  | ended => cases first
  | silent silent later ih =>
    rw [List.filterMap_cons, extract_silent silent]
    exact ih first
  | usage here later ih =>
    rename_i other others payload payloads
    cases first
    refine ⟨payload, payloads, here, later, ?_⟩
    rw [List.filterMap_cons]
    cases extractUsageFromPayload payload <;> rfl

/-! ## Completions -/

/-- A count as a number. -/
def tokenCount (n : ℕ) : Number := .finite n

/-- `usage` of a completion of OpenAI. -/
structure OpenAiUsage where
  promptTokens : ℕ
  completionTokens : ℕ
  totalTokens : Option ℕ
  cachedTokens : Option ℕ
  reasoningTokens : Option ℕ

/-- `usageMetadata` of Gemini, which leaves out what is zero. -/
structure GeminiUsage where
  promptTokenCount : Option ℕ
  candidatesTokenCount : Option ℕ
  totalTokenCount : Option ℕ
  cachedContentTokenCount : Option ℕ
  thoughtsTokenCount : Option ℕ

/-- The usage of a message of Anthropic. -/
structure AnthropicUsage where
  inputTokens : ℕ
  outputTokens : ℕ
  cacheReadInputTokens : Option ℕ

/-- The object has this count under the key, or nothing. -/
def HasCount (object : Json) (key : String) (n : Option ℕ) : Prop :=
  object.getNumber key = n.map tokenCount

/-- A detail is in the details object, if it is anywhere. -/
structure HasDetail (usage : Json) (details key : String) (n : Option ℕ) : Prop where
  inside : (usage.getObject details).bind (·.getNumber key) = n.map tokenCount
  outside : HasCount usage key none

theorem HasDetail.detail {usage : Json} {details key : String} {n : Option ℕ}
    (has : HasDetail usage details key n) : detail usage details key = n.map tokenCount := by
  obtain ⟨inside, outside⟩ := has
  unfold Sse.detail
  cases found : usage.getObject details with
  | none =>
    rw [found] at inside
    exact outside.trans inside
  | some object =>
    rw [found] at inside
    exact inside

namespace OpenAiUsage

variable (record : OpenAiUsage)

/-- The usage object has the record's counts under the provider's names. -/
structure Of (usage : Json) : Prop where
  prompt : HasCount usage "prompt_tokens" (some record.promptTokens)
  completion : HasCount usage "completion_tokens" (some record.completionTokens)
  total : HasCount usage "total_tokens" record.totalTokens
  camel : HasCount usage "totalTokens" none
  cached : HasDetail usage "prompt_tokens_details" "cached_tokens" record.cachedTokens
  reasoning : HasDetail usage "completion_tokens_details" "reasoning_tokens" record.reasoningTokens

def Carries (payload : Json) : Prop :=
  ∃ usage, record.Of usage ∧ Holds payload (some usage) none none

def update : PartialUsage where
  promptTokens := some (tokenCount record.promptTokens)
  completionTokens := some (tokenCount record.completionTokens)
  totalTokens := record.totalTokens.map tokenCount
  cachedTokens := record.cachedTokens.map tokenCount
  reasoningTokens := record.reasoningTokens.map tokenCount

theorem Carries.extract {record : OpenAiUsage} {payload : Json} (carries : record.Carries payload) :
    extractUsageFromPayload payload = some record.update := by
  obtain ⟨usage, ⟨prompt, completion, total, camel, cached, reasoning⟩, holds⟩ := carries
  have read : standardUsage usage = record.update := by
    unfold HasCount at prompt completion total camel
    simp [standardUsage, update, Json.firstNumber, prompt, completion, total, camel,
      cached.detail, reasoning.detail]
  have result : placed (some usage) none none = record.update := by
    simp [placed, readPlace, read, PartialUsage.assign_empty]
  rw [extract_holds holds, result]
  rfl

end OpenAiUsage

namespace GeminiUsage

variable (record : GeminiUsage)

structure Of (metadata : Json) : Prop where
  prompt : HasCount metadata "promptTokenCount" record.promptTokenCount
  candidates : HasCount metadata "candidatesTokenCount" record.candidatesTokenCount
  total : HasCount metadata "totalTokenCount" record.totalTokenCount
  cached : HasCount metadata "cachedContentTokenCount" record.cachedContentTokenCount
  thoughts : HasCount metadata "thoughtsTokenCount" record.thoughtsTokenCount
  snake : ∀ key ∈ ["prompt_token_count", "candidates_token_count", "total_token_count",
    "cached_content_token_count", "thoughts_token_count"], HasCount metadata key none

def Carries (payload : Json) : Prop :=
  ∃ metadata, record.Of metadata ∧ Holds payload none (some metadata) none

def update : PartialUsage where
  promptTokens := record.promptTokenCount.map tokenCount
  completionTokens := record.candidatesTokenCount.map tokenCount
  totalTokens := record.totalTokenCount.map tokenCount
  cachedTokens := record.cachedContentTokenCount.map tokenCount
  reasoningTokens := record.thoughtsTokenCount.map tokenCount

theorem Carries.extract {record : GeminiUsage} {payload : Json} (carries : record.Carries payload) :
    extractUsageFromPayload payload =
      if record.update.found then some record.update else none := by
  obtain ⟨metadata, ⟨prompt, candidates, total, cached, thoughts, snake⟩, holds⟩ := carries
  have read : geminiUsage metadata = record.update := by
    simp only [List.forall_mem_cons] at snake
    unfold HasCount at prompt candidates total cached thoughts snake
    simp [geminiUsage, update, Json.firstNumber, prompt, candidates, total, cached, thoughts, snake]
  have result : placed none (some metadata) none = record.update := by
    simp [placed, readPlace, read, PartialUsage.assign_empty, PartialUsage.empty_assign]
  rw [extract_holds holds, result]

/-- A count that was there is there, and not smaller. -/
def Grows (before after : Option ℕ) : Prop := ∀ n ∈ before, ∃ m ∈ after, n ≤ m

/-- The later metadata counts what the earlier one did, and more. -/
structure Cumulative (before after : GeminiUsage) : Prop where
  prompt : Grows before.promptTokenCount after.promptTokenCount
  candidates : Grows before.candidatesTokenCount after.candidatesTokenCount
  total : Grows before.totalTokenCount after.totalTokenCount
  cached : Grows before.cachedContentTokenCount after.cachedContentTokenCount
  thoughts : Grows before.thoughtsTokenCount after.thoughtsTokenCount

theorem Grows.none {before : Option ℕ} (grows : Grows before Option.none) : before = Option.none := by
  cases before with
  | none => rfl
  | some n =>
    obtain ⟨m, absent, -⟩ := grows n rfl
    cases absent

end GeminiUsage

namespace AnthropicUsage

variable (record : AnthropicUsage)

/-- The usage object has none of the names that are read before Anthropic's. -/
def NoOtherNames (usage : Json) : Prop :=
  ∀ key ∈ ["prompt_tokens", "promptTokens", "completion_tokens", "completionTokens",
    "total_tokens", "totalTokens", "prompt_tokens_details", "cached_tokens",
    "completion_tokens_details", "reasoning_tokens"], usage.get key = none

/-- `message_start`: the prompt has been counted, and the output so far. -/
def Starts (payload : Json) : Prop :=
  ∃ usage sofar, HasCount usage "input_tokens" (some record.inputTokens) ∧
    HasCount usage "output_tokens" sofar ∧
    HasCount usage "cache_read_input_tokens" record.cacheReadInputTokens ∧
    Holds payload none none (some usage)

/-- `message_delta`: the output has been counted. The prompt may be said again. -/
def Ends (payload : Json) : Prop :=
  ∃ usage again, HasCount usage "output_tokens" (some record.outputTokens) ∧
    HasCount usage "input_tokens" again ∧ (again = none ∨ again = some record.inputTokens) ∧
    NoOtherNames usage ∧ Holds payload (some usage) none none

/-- The body of a message. -/
def Carries (payload : Json) : Prop :=
  ∃ usage, HasCount usage "input_tokens" (some record.inputTokens) ∧
    HasCount usage "output_tokens" (some record.outputTokens) ∧
    HasCount usage "cache_read_input_tokens" record.cacheReadInputTokens ∧
    NoOtherNames usage ∧ Holds payload (some usage) none none

theorem standardUsage_eq {usage : Json} (names : NoOtherNames usage) :
    standardUsage usage =
      { promptTokens := usage.getNumber "input_tokens"
        completionTokens := usage.getNumber "output_tokens" } := by
  simp only [NoOtherNames, List.forall_mem_cons] at names
  simp [standardUsage, Json.firstNumber, detail, Json.getNumber, Json.getObject, names]

/-- What is read of a start that has counted this much output. -/
def startUpdate (sofar : Option Number) : PartialUsage where
  promptTokens := some (tokenCount record.inputTokens)
  completionTokens := sofar
  cachedTokens := record.cacheReadInputTokens.map tokenCount

/-- What is read of an end that says the prompt again, or does not. -/
def endUpdate (again : Option Number) : PartialUsage where
  promptTokens := again
  completionTokens := some (tokenCount record.outputTokens)

theorem Starts.extract {record : AnthropicUsage} {payload : Json} (starts : record.Starts payload) :
    ∃ sofar, extractUsageFromPayload payload = some (record.startUpdate sofar) := by
  obtain ⟨usage, sofar, input, output, cached, holds⟩ := starts
  have result : placed none none (some usage) = record.startUpdate (sofar.map tokenCount) := by
    unfold HasCount at input output cached
    simp [placed, readPlace, PartialUsage.empty_assign, anthropicUsage, startUpdate, input, output,
      cached]
  refine ⟨sofar.map tokenCount, ?_⟩
  rw [extract_holds holds, result]
  rfl

theorem Ends.extract {record : AnthropicUsage} {payload : Json} (ends : record.Ends payload) :
    ∃ again, (again = none ∨ again = some (tokenCount record.inputTokens)) ∧
      extractUsageFromPayload payload = some (record.endUpdate again) := by
  obtain ⟨usage, again, output, input, same, names, holds⟩ := ends
  have result : placed (some usage) none none = record.endUpdate (again.map tokenCount) := by
    unfold HasCount at input output
    simp [placed, readPlace, PartialUsage.assign_empty, standardUsage_eq names, endUpdate, input,
      output]
  refine ⟨again.map tokenCount, ?_, ?_⟩
  · rcases same with rfl | rfl
    · exact Or.inl rfl
    · exact Or.inr rfl
  · rw [extract_holds holds, result]
    simp [PartialUsage.found, endUpdate]

theorem merged_start_end (record : AnthropicUsage) (sofar : Option Number) {again : Option Number}
    (same : again = none ∨ again = some (tokenCount record.inputTokens)) :
    merged ([record.startUpdate sofar] ++ [record.endUpdate again]) =
      { promptTokens := some (tokenCount record.inputTokens)
        completionTokens := some (tokenCount record.outputTokens)
        cachedTokens := record.cacheReadInputTokens.map tokenCount } := by
  have start : merged [record.startUpdate sofar] = record.startUpdate sofar :=
    PartialUsage.empty_assign (record.startUpdate sofar)
  rw [merged_concat, start]
  rcases same with rfl | rfl <;> simp [PartialUsage.assign, startUpdate, endUpdate]

/-- The cached tokens of a body are not read. -/
theorem Carries.extract {record : AnthropicUsage} {payload : Json}
    (carries : record.Carries payload) :
    extractUsageFromPayload payload =
      some (record.endUpdate (some (tokenCount record.inputTokens))) := by
  obtain ⟨usage, input, output, -, names, holds⟩ := carries
  have result : placed (some usage) none none =
      record.endUpdate (some (tokenCount record.inputTokens)) := by
    unfold HasCount at input output
    simp [placed, readPlace, PartialUsage.assign_empty, standardUsage_eq names, endUpdate, input,
      output]
  rw [extract_holds holds, result]
  rfl

end AnthropicUsage

/-! ## A stream beside its body -/

/-- Prompt, completion, cached and reasoning tokens; what is missing is zero. -/
structure Tokens where
  prompt : Number
  completion : Number
  cached : Number
  reasoning : Number
deriving DecidableEq

def orZero (x : Option Number) : Number := x.getD (.finite 0)

def streamTokens (usage : Option NumberUsage) : Tokens where
  prompt := orZero (usage.map NumberUsage.promptTokens)
  completion := orZero (usage.map NumberUsage.completionTokens)
  cached := orZero (usage.bind NumberUsage.cachedTokens)
  reasoning := orZero (usage.bind NumberUsage.reasoningTokens)

def bodyTokens (usage : Option PartialUsage) : Tokens where
  prompt := orZero (usage.bind PartialUsage.promptTokens)
  completion := orZero (usage.bind PartialUsage.completionTokens)
  cached := orZero (usage.bind PartialUsage.cachedTokens)
  reasoning := orZero (usage.bind PartialUsage.reasoningTokens)

/-- What a provider has counted for one completion. -/
inductive UsageRecord where
  | openAi (record : OpenAiUsage)
  | gemini (record : GeminiUsage)
  | anthropic (record : AnthropicUsage)

namespace UsageRecord

/-- The payloads of a stream of the completion: a final usage chunk, metadata that grow to the
record, or a start and an end, with any payloads without usage between them. -/
def StreamedAs : UsageRecord → List Json → Prop
  | .openAi record, payloads => Carrying OpenAiUsage.Carries [record] payloads
  | .gemini record, payloads => ∃ earlier, (earlier ++ [record]).Pairwise GeminiUsage.Cumulative ∧
      Carrying GeminiUsage.Carries (earlier ++ [record]) payloads
  | .anthropic record, payloads =>
    Carrying (fun carries payload => carries payload) [record.Starts, record.Ends] payloads

def BodyOf : UsageRecord → Json → Prop
  | .openAi record => record.Carries
  | .gemini record => record.Carries
  | .anthropic record => record.Carries

/-- The explicit total of the last usage event. -/
def lastTotal : UsageRecord → Option ℕ
  | .openAi record => record.totalTokens
  | .gemini record => record.totalTokenCount
  | .anthropic _ => none

/-- The stream and the body have the same tokens, and the stream's total is the last explicit
one or the sum. -/
structure Agrees (record : UsageRecord) (payloads : List Json) (body : Json) : Prop where
  tokens : streamTokens (streamed payloads) = bodyTokens (extractUsageFromPayload body)
  total : ∀ usage, streamed payloads = some usage →
    usage.totalTokens = (record.lastTotal.map tokenCount).getD
      (usage.promptTokens.add usage.completionTokens)

/-- No tokens were read from a cache by a provider whose bodies say so under a name of its
own. -/
def Uncached : UsageRecord → Prop
  | .anthropic record => record.cacheReadInputTokens.getD 0 = 0
  | .openAi _ | .gemini _ => True

theorem orZero_positive (n : Option ℕ) :
    orZero (if (orZero (n.map tokenCount)).isPositive then some (orZero (n.map tokenCount))
      else none) = orZero (n.map tokenCount) := by
  cases n with
  | none => rfl
  | some n =>
    rcases Nat.eq_zero_or_pos n with rfl | positive
    · rfl
    · have counted : (orZero ((some n).map tokenCount)).isPositive = true := by
        simp [orZero, tokenCount, Number.isPositive, positive]
      rw [if_pos counted]
      rfl

/-- The tokens and the total of a stream whose last update is `last`. -/
theorem streamed_concat {payloads : List Json} {updates : List PartialUsage} {last : PartialUsage}
    {cached reasoning : Option ℕ}
    (read : payloads.filterMap extractUsageFromPayload = updates ++ [last])
    (cached_eq : (merged (updates ++ [last])).cachedTokens = cached.map tokenCount)
    (reasoning_eq : (merged (updates ++ [last])).reasoningTokens = reasoning.map tokenCount) :
    streamTokens (streamed payloads) =
        ⟨orZero (merged (updates ++ [last])).promptTokens,
          orZero (merged (updates ++ [last])).completionTokens,
          orZero (cached.map tokenCount), orZero (reasoning.map tokenCount)⟩ ∧
      ∀ usage, streamed payloads = some usage →
        usage.totalTokens =
          last.totalTokens.getD (usage.promptTokens.add usage.completionTokens) := by
  obtain ⟨prompt, completion, cached_read, reasoning_read⟩ := counters_foldl (updates ++ [last])
  rw [cached_eq] at cached_read
  rw [reasoning_eq] at reasoning_read
  generalize counted : (updates ++ [last]).foldl applyUsageUpdate {} = counters at *
  have usage_eq : streamed payloads = some
      { promptTokens := counters.promptTokens
        completionTokens := counters.completionTokens
        totalTokens := last.totalTokens.getD (counters.promptTokens.add counters.completionTokens)
        cachedTokens :=
          if counters.cachedTokens.isPositive then some counters.cachedTokens else none
        reasoningTokens :=
          if counters.reasoningTokens.isPositive then some counters.reasoningTokens else none } := by
    rw [streamed, inspectPayload_counters, read, ← counted, List.foldl_append]
    rfl
  rw [usage_eq]
  constructor
  · change Tokens.mk counters.promptTokens counters.completionTokens
      (orZero (if counters.cachedTokens.isPositive then some counters.cachedTokens else none))
      (orZero (if counters.reasoningTokens.isPositive then some counters.reasoningTokens
        else none)) = _
    have cached_kept := orZero_positive cached
    have reasoning_kept := orZero_positive reasoning
    rw [prompt, completion, cached_read, reasoning_read]
    exact congrArg₂ (Tokens.mk _ _) cached_kept reasoning_kept
  · intro usage same
    obtain rfl := Option.some.inj same
    rfl

theorem openAi_agrees {record : OpenAiUsage} {payloads : List Json} {body : Json}
    (stream : (openAi record).StreamedAs payloads) (carries : (openAi record).BodyOf body) :
    (openAi record).Agrees payloads body := by
  obtain ⟨payload, later, here, silent, read⟩ := Carrying.cons stream
  rw [here.extract, silent.nil] at read
  have last : merged [record.update] = record.update := PartialUsage.empty_assign record.update
  have cached : (merged ([] ++ [record.update])).cachedTokens = record.cachedTokens.map tokenCount :=
    congrArg PartialUsage.cachedTokens last
  have reasoning :
      (merged ([] ++ [record.update])).reasoningTokens = record.reasoningTokens.map tokenCount :=
    congrArg PartialUsage.reasoningTokens last
  obtain ⟨tokens, total⟩ := streamed_concat read cached reasoning
  constructor
  · rw [tokens, OpenAiUsage.Carries.extract carries, List.nil_append, last]
    rfl
  · exact total

/-- The metadata of a stream, less those without prompt, completion or total. -/
theorem gemini_updates {records : List GeminiUsage} {payloads : List Json}
    (carrying : Carrying GeminiUsage.Carries records payloads) :
    payloads.filterMap extractUsageFromPayload =
      (records.map GeminiUsage.update).filter PartialUsage.found := by
  induction carrying with
  | ended => rfl
  | silent silent later ih =>
    rw [List.filterMap_cons, extract_silent silent]
    exact ih
  | @usage record records payload payloads here later ih =>
    rw [List.filterMap_cons, here.extract, List.map_cons, List.filter_cons]
    cases found : record.update.found with
    | true =>
      simp only [if_true]
      rw [ih]
    | false => simpa using ih

/-- A count of the record is what the stream ends with, since no earlier metadata had it
without the record. -/
theorem gemini_last (field : PartialUsage → Option Number) (count : GeminiUsage → Option ℕ)
    {earlier : List GeminiUsage} {record : GeminiUsage}
    (assigned : ∀ result later : PartialUsage,
      field (result.assign later) = (field later).or (field result))
    (empty : field {} = none)
    (read : ∀ metadata : GeminiUsage, field metadata.update = (count metadata).map tokenCount)
    (grows : ∀ before ∈ earlier, GeminiUsage.Grows (count before) (count record)) :
    field (merged ((earlier.map GeminiUsage.update).filter PartialUsage.found ++ [record.update])) =
      (count record).map tokenCount := by
  rw [← read]
  refine merged_last assigned empty fun missing update mem => ?_
  obtain ⟨before, in_earlier, rfl⟩ := List.mem_map.mp (List.mem_filter.mp mem).1
  rw [read, Option.map_eq_none_iff] at missing
  have grown := grows before in_earlier
  rw [missing] at grown
  rw [read, grown.none]
  rfl

/-- When the record has no prompt, completion or total, no earlier metadata had. -/
theorem gemini_nothing {earlier : List GeminiUsage} {record : GeminiUsage}
    (cumulative : ∀ before ∈ earlier, GeminiUsage.Cumulative before record)
    (missing : record.update.found = false) :
    ((earlier ++ [record]).map GeminiUsage.update).filter PartialUsage.found = [] := by
  rw [List.filter_eq_nil_iff]
  intro update mem
  obtain ⟨metadata, listed, rfl⟩ := List.mem_map.mp mem
  rcases List.mem_append.mp listed with in_earlier | is_record
  · have grown := cumulative metadata in_earlier
    have absent : record.promptTokenCount = none ∧ record.candidatesTokenCount = none ∧
        record.totalTokenCount = none := by
      simpa [PartialUsage.found, GeminiUsage.update, and_assoc] using missing
    obtain ⟨no_prompt, no_candidates, no_total⟩ := absent
    have prompt := grown.prompt
    have candidates := grown.candidates
    have total := grown.total
    rw [no_prompt] at prompt
    rw [no_candidates] at candidates
    rw [no_total] at total
    simp [PartialUsage.found, GeminiUsage.update, prompt.none, candidates.none, total.none]
  · obtain rfl := List.mem_singleton.mp is_record
    simp [missing]

theorem gemini_agrees {record : GeminiUsage} {payloads : List Json} {body : Json}
    (stream : (gemini record).StreamedAs payloads) (carries : (gemini record).BodyOf body) :
    (gemini record).Agrees payloads body := by
  obtain ⟨earlier, pairwise, carrying⟩ := stream
  have cumulative : ∀ before ∈ earlier, GeminiUsage.Cumulative before record := fun before mem =>
    (List.pairwise_append.mp pairwise).2.2 before mem record (List.mem_singleton_self record)
  have read := gemini_updates carrying
  have body_read := GeminiUsage.Carries.extract carries
  cases found : record.update.found with
  | false =>
    rw [gemini_nothing cumulative found] at read
    have silent : streamed payloads = none := by
      rw [streamed, inspectPayload_counters, read]
      rfl
    constructor
    · rw [silent, body_read, found]
      rfl
    · intro usage some_usage
      rw [silent] at some_usage
      cases some_usage
  | true =>
    rw [List.map_append, List.map_singleton, List.filter_append,
      List.filter_cons_of_pos found, List.filter_nil] at read
    have prompt :=
      gemini_last PartialUsage.promptTokens GeminiUsage.promptTokenCount (fun _ _ => rfl) rfl
      (fun _ => rfl) fun before mem => (cumulative before mem).prompt
    have completion := gemini_last PartialUsage.completionTokens GeminiUsage.candidatesTokenCount
      (fun _ _ => rfl) rfl
      (fun _ => rfl) fun before mem => (cumulative before mem).candidates
    have cached := gemini_last PartialUsage.cachedTokens GeminiUsage.cachedContentTokenCount
      (fun _ _ => rfl) rfl
      (fun _ => rfl) fun before mem => (cumulative before mem).cached
    have reasoning := gemini_last PartialUsage.reasoningTokens GeminiUsage.thoughtsTokenCount
      (fun _ _ => rfl) rfl
      (fun _ => rfl) fun before mem => (cumulative before mem).thoughts
    obtain ⟨tokens, total⟩ := streamed_concat read cached reasoning
    constructor
    · rw [tokens, body_read, found, prompt, completion]
      rfl
    · exact total

theorem orZero_eq_zero (n : Option ℕ) :
    orZero (n.map tokenCount) = .finite 0 ↔ n.getD 0 = 0 := by
  cases n with
  | none => exact iff_of_true rfl rfl
  | some n => simp [orZero, tokenCount]

theorem anthropic_agrees_iff {record : AnthropicUsage} {payloads : List Json} {body : Json}
    (stream : (anthropic record).StreamedAs payloads) (carries : (anthropic record).BodyOf body) :
    (anthropic record).Agrees payloads body ↔ (anthropic record).Uncached := by
  obtain ⟨start, middle, starts, afterStart, read⟩ := Carrying.cons stream
  obtain ⟨delta, later, ends, silent, read_middle⟩ := Carrying.cons afterStart
  obtain ⟨sofar, start_read⟩ := starts.extract
  obtain ⟨again, same, delta_read⟩ := ends.extract
  rw [read_middle, silent.nil, start_read, delta_read] at read
  change _ = [record.startUpdate sofar] ++ [record.endUpdate again] at read
  have last := record.merged_start_end sofar same
  have cached := congrArg PartialUsage.cachedTokens last
  have reasoning : (merged ([record.startUpdate sofar] ++ [record.endUpdate again])).reasoningTokens =
      (none : Option ℕ).map tokenCount := congrArg PartialUsage.reasoningTokens last
  obtain ⟨tokens, total⟩ := streamed_concat read cached reasoning
  rw [last] at tokens
  have body_tokens : bodyTokens (extractUsageFromPayload body) =
      ⟨tokenCount record.inputTokens, tokenCount record.outputTokens, .finite 0, .finite 0⟩ := by
    rw [AnthropicUsage.Carries.extract carries]
    rfl
  constructor
  · intro agrees
    have same_tokens := tokens.symm.trans (agrees.tokens.trans body_tokens)
    have none_cached : orZero (record.cacheReadInputTokens.map tokenCount) = .finite 0 :=
      congrArg Tokens.cached same_tokens
    exact (orZero_eq_zero record.cacheReadInputTokens).mp none_cached
  · intro uncached
    have none_cached := (orZero_eq_zero record.cacheReadInputTokens).mpr uncached
    constructor
    · rw [tokens, body_tokens, none_cached]
      rfl
    · exact total

/-- **A stream and a body of one completion have the same usage** when no cached tokens are
told in a body under Anthropic's name for them, and only then. -/
theorem stream_agrees_iff {record : UsageRecord} {payloads : List Json} {body : Json}
    (stream : record.StreamedAs payloads) (carries : record.BodyOf body) :
    record.Agrees payloads body ↔ record.Uncached := by
  cases record with
  | openAi record => exact iff_of_true (openAi_agrees stream carries) trivial
  | gemini record => exact iff_of_true (gemini_agrees stream carries) trivial
  | anthropic record => exact anthropic_agrees_iff stream carries

/-- The usage of a completion of OpenAI. -/
def sampleUsage : Json := .object
  [("prompt_tokens", .number (tokenCount 12)), ("completion_tokens", .number (tokenCount 30)),
    ("total_tokens", .number (tokenCount 42)),
    ("prompt_tokens_details", .object [("cached_tokens", .number (tokenCount 5))])]

/-- The final chunk, and the body. -/
def finalChunk : Json := .object [("choices", .array []), ("usage", sampleUsage)]

theorem finalChunk_carries : (⟨12, 30, some 42, some 5, none⟩ : OpenAiUsage).Carries finalChunk :=
  ⟨sampleUsage, ⟨rfl, rfl, rfl, rfl, ⟨rfl, rfl⟩, ⟨rfl, rfl⟩⟩, ⟨rfl, rfl, rfl, rfl, rfl, rfl⟩⟩

/-- A delta with no usage, and the final chunk. -/
theorem stream_agrees_iff_openAi :
    (openAi ⟨12, 30, some 42, some 5, none⟩).Agrees
      [.object [("choices", .array [])], finalChunk] finalChunk := by
  have stream : (openAi ⟨12, 30, some 42, some 5, none⟩).StreamedAs
      [.object [("choices", .array [])], finalChunk] :=
    Carrying.silent ⟨rfl, rfl, rfl, rfl, rfl, rfl⟩ (Carrying.usage finalChunk_carries Carrying.ended)
  exact (stream_agrees_iff stream finalChunk_carries).mpr trivial

/-- A message of Anthropic's, of whose prompt a part was read from the cache. -/
def cachedMessage : AnthropicUsage := ⟨12, 30, some 100⟩

/-- Its usage when this much output has been counted. -/
def messageUsage (output : ℕ) : Json := .object
  [("input_tokens", .number (tokenCount 12)), ("output_tokens", .number (tokenCount output)),
    ("cache_read_input_tokens", .number (tokenCount 100))]

def messageStart : Json := .object
  [("type", .string "message_start"), ("message", .object [("usage", messageUsage 1)])]

def deltaUsage : Json := .object [("output_tokens", .number (tokenCount 30))]

def messageDelta : Json := .object [("type", .string "message_delta"), ("usage", deltaUsage)]

def messageBody : Json := .object [("type", .string "message"), ("usage", messageUsage 30)]

/-- The stream of the message has its cached tokens, and the body does not. -/
theorem cached_tokens_lost :
    (anthropic cachedMessage).StreamedAs [messageStart, messageDelta] ∧
      (anthropic cachedMessage).BodyOf messageBody ∧
      ¬(anthropic cachedMessage).Agrees [messageStart, messageDelta] messageBody := by
  have starts : cachedMessage.Starts messageStart :=
    ⟨messageUsage 1, some 1, rfl, rfl, rfl, ⟨rfl, rfl, rfl, rfl, rfl, rfl⟩⟩
  have ends : cachedMessage.Ends messageDelta := by
    refine ⟨deltaUsage, none, rfl, rfl, Or.inl rfl, ?_, ⟨rfl, rfl, rfl, rfl, rfl, rfl⟩⟩
    simp [AnthropicUsage.NoOtherNames, deltaUsage, Json.get]
  have carries : cachedMessage.Carries messageBody := by
    refine ⟨messageUsage 30, rfl, rfl, rfl, ?_, ⟨rfl, rfl, rfl, rfl, rfl, rfl⟩⟩
    simp [AnthropicUsage.NoOtherNames, messageUsage, Json.get]
  have stream : (anthropic cachedMessage).StreamedAs [messageStart, messageDelta] :=
    Carrying.usage starts (Carrying.usage ends Carrying.ended)
  refine ⟨stream, carries, ?_⟩
  rw [anthropic_agrees_iff stream carries]
  simp [Uncached, cachedMessage]

end UsageRecord

end KeyCollective.Sse
