import KeyCollective.Worker.ErrorNormalizer

/-!
# The client's response

The response of a provider as the client receives it: listed headers, the names the collective
gives itself, and a body that is sanitized when the provider reports an error.
-/

namespace KeyCollective.Upstream

open ErrorNormalizer

def allowedResponseHeaders : List String :=
  ["content-type", "content-length", "cache-control", "x-ratelimit-limit-requests",
    "x-ratelimit-remaining-requests", "x-ratelimit-reset-requests", "x-request-id",
    "x-kc-request-id", "x-kc-model-used", "x-kc-provider", "x-kc-trace-id", "transfer-encoding",
    "content-encoding"]

/-- A response whose body is the chunks of its stream. -/
structure Response where
  status : Nat
  headers : Headers
  body : Option (List Bytes)

/-- `if (value) headers.set(name, value)`. -/
def Headers.putTruthy (headers : Headers) (name : String) : Option String → Option Headers
  | some value => if value.isEmpty then some headers else headers.put name value
  | none => some headers

/-- A loop over entries that sets those whose key is kept. -/
def putWhere (keep : String → Bool) : List (String × String) → Headers → Option Headers
  | [], result => some result
  | (key, value) :: rest, result =>
    if keep key then (result.put key value).bind (putWhere keep rest)
    else putWhere keep rest result

section

variable [Host]

def sanitizeResponseHeaders (upstreamHeaders : Headers) : Option Headers :=
  putWhere (fun key => allowedResponseHeaders.contains (Host.toLowerCase key))
    upstreamHeaders.values .empty

def normalizeUpstreamResponse (upstream : Response) (kcRequestId : String)
    (modelUsed provider : Option String) : Option Response := do
  let cleanHeaders ← sanitizeResponseHeaders upstream.headers
  let cleanHeaders ← cleanHeaders.put "x-kc-request-id" kcRequestId
  let cleanHeaders ← cleanHeaders.putTruthy "x-kc-model-used" modelUsed
  let cleanHeaders ← cleanHeaders.putTruthy "x-kc-provider" provider
  if upstream.status ≥ 400 ∧ upstream.body.isSome then
    some ⟨upstream.status, cleanHeaders.delete "content-length", upstream.body.map sanitizeStream⟩
  else some ⟨upstream.status, cleanHeaders, upstream.body⟩

/-- `extra.get(name)` where an empty value is as good as none. -/
def Headers.truthy (headers : Headers) (name : String) : Option String :=
  ((headers.get? name).map Prod.snd).filter fun value => !value.isEmpty

def requestId (extra : Headers) : String :=
  ((extra.truthy "x-kc-trace-id").or (extra.truthy "x-kc-request-id")).getD "unknown"

/-- Extra headers that are not the collective's own. -/
def mergeExtra (extra : Headers) (result : Headers) : Option Headers :=
  putWhere (fun key => !startsWith (Host.toLowerCase key) "x-kc-") extra.values result

def toClientResponse (upstreamResponse : Response) (extra : Headers) : Option Response := do
  let normalized ← normalizeUpstreamResponse upstreamResponse (requestId extra)
    ((extra.truthy "x-kc-model").or (extra.truthy "x-kc-model-used")) (extra.truthy "x-kc-provider")
  let headers ← mergeExtra extra normalized.headers
  some { normalized with headers }

/-! ## What is set -/

section

omit [Host]

variable {keep : String → Bool} {entries : List (String × String)} {before result : Headers}

theorem has_putWhere (set : putWhere keep entries before = some result) (name : String) :
    result.has name = true ↔
      before.has name = true ∨ ∃ entry ∈ entries, keep entry.1 = true ∧ byteLower entry.1 = name := by
  induction entries generalizing before with
  | nil =>
    cases set
    simp
  | cons entry rest ih =>
    rw [putWhere] at set
    split at set
    case isTrue kept =>
      obtain ⟨next, put, later⟩ := Option.bind_eq_some_iff.mp set
      rw [ih later, Headers.has_put put]
      simp only [List.exists_mem_cons_iff, kept, true_and]
      tauto
    case isFalse left_out =>
      rw [ih set]
      simp only [List.exists_mem_cons_iff, left_out, Bool.false_eq_true, false_and, false_or]

theorem token_putWhere (set : putWhere keep entries before = some result) :
    ∀ entry ∈ entries, keep entry.1 = true → isToken entry.1 = true := by
  induction entries generalizing before with
  | nil => exact List.forall_mem_nil _
  | cons entry rest ih =>
    rw [putWhere] at set
    intro other mem kept
    split at set
    case isTrue =>
      obtain ⟨next, put, later⟩ := Option.bind_eq_some_iff.mp set
      obtain rfl | mem := List.mem_cons.mp mem
      · exact (Headers.put_eq_some put).1
      · exact ih later other mem kept
    case isFalse left_out =>
      obtain rfl | mem := List.mem_cons.mp mem
      · exact absurd kept left_out
      · exact ih set other mem kept

theorem get?_putWhere (set : putWhere keep entries before = some result) {name : String}
    (other : ∀ entry ∈ entries, keep entry.1 = true → byteLower entry.1 ≠ name) :
    result.get? name = before.get? name := by
  induction entries generalizing before with
  | nil =>
    cases set
    rfl
  | cons entry rest ih =>
    obtain ⟨differs, later⟩ := List.forall_mem_cons.mp other
    rw [putWhere] at set
    split at set
    case isTrue kept =>
      obtain ⟨next, put, set⟩ := Option.bind_eq_some_iff.mp set
      rw [ih set later, Headers.get?_put put, if_neg (differs kept)]
    case isFalse => exact ih set later

theorem get?_putTruthy {name : String} {value : Option String}
    (set : before.putTruthy name value = some result) {k : String} (other : byteLower name ≠ k) :
    result.get? k = before.get? k := by
  unfold Headers.putTruthy at set
  split at set
  case h_1 text =>
    split at set
    · cases set
      rfl
    · rw [Headers.get?_put set, if_neg other]
  case h_2 =>
    cases set
    rfl

theorem has_putTruthy {name : String} {value : Option String}
    (set : before.putTruthy name value = some result) {k : String} (present : result.has k = true) :
    before.has k = true ∨ k = byteLower name := by
  by_cases same : k = byteLower name
  · exact .inr same
  · left
    rwa [IndexedMap.has, get?_putTruthy set (Ne.symm same)] at present

end

variable [TokenHost] {upstream response : Response} {extra : Headers}

/-- What is taken over from the provider is listed. -/
theorem allowed_sanitizeResponseHeaders {upstreamHeaders result : Headers}
    (clean : sanitizeResponseHeaders upstreamHeaders = some result) {name : String}
    (present : result.has name = true) : name ∈ allowedResponseHeaders := by
  obtain empty | ⟨entry, mem, kept, rfl⟩ := (has_putWhere clean name).mp present
  · cases empty
  · have token := token_putWhere clean entry mem kept
    rw [TokenHost.lower_token entry.1 token] at kept
    exact List.contains_iff_mem.mp kept

/-- The response before extra headers join. -/
structure Normalized (upstream response : Response) (kcRequestId : String) : Prop where
  allowed : ∀ name, response.headers.has name = true → name ∈ allowedResponseHeaders
  requestId : response.headers.get? "x-kc-request-id" =
    some ("x-kc-request-id", normalizeValue kcRequestId)
  status : response.status = upstream.status
  body : response.body =
    if 400 ≤ upstream.status then upstream.body.map sanitizeStream else upstream.body
  length : 400 ≤ upstream.status → upstream.body.isSome = true →
    response.headers.has "content-length" = false

theorem normalized {kcRequestId : String} {modelUsed provider : Option String}
    (made : normalizeUpstreamResponse upstream kcRequestId modelUsed provider = some response) :
    Normalized upstream response kcRequestId := by
  simp only [normalizeUpstreamResponse, Option.bind_eq_bind, Option.bind_eq_some_iff] at made
  obtain ⟨clean, listed, tagged, put, named, model, result, provided, made⟩ := made
  have allowed : ∀ name, result.has name = true → name ∈ allowedResponseHeaders := by
    intro name present
    obtain present | rfl := has_putTruthy provided present
    · obtain present | rfl := has_putTruthy model present
      · obtain rfl | present := (Headers.has_put put name).mp present
        · decide
        · exact allowed_sanitizeResponseHeaders listed present
      · decide
    · decide
  have requestId : result.get? "x-kc-request-id" =
      some ("x-kc-request-id", normalizeValue kcRequestId) := by
    rw [get?_putTruthy provided (by decide), get?_putTruthy model (by decide),
      Headers.get?_put put, if_pos (by decide)]
    rfl
  split at made
  case isTrue failed =>
    obtain rfl := Option.some.inj made
    refine ⟨fun name present => ?_, ?_, rfl, (if_pos failed.1).symm, fun _ _ => ?_⟩
    · rw [IndexedMap.has_iff, IndexedMap.mem_keys_delete] at present
      exact allowed name ((IndexedMap.has_iff _ _).mpr present.2)
    · rw [IndexedMap.get?_delete, if_neg (by decide), requestId]
    · rw [IndexedMap.has, IndexedMap.get?_delete, if_pos rfl]
      rfl
  case isFalse passed =>
    obtain rfl := Option.some.inj made
    refine ⟨allowed, requestId, rfl, ?_, fun failed present => absurd ⟨failed, present⟩ passed⟩
    split
    case isTrue failed =>
      cases given : upstream.body with
      | none => rfl
      | some chunks => exact absurd ⟨failed, by rw [given]; rfl⟩ passed
    case isFalse => rfl

/-- What the client receives: a listed header, or an extra one that is not the collective's own,
the request's own id, and from a provider's error only what was sanitized, without its length. -/
theorem toClientResponse_spec (made : toClientResponse upstream extra = some response) :
    (∀ name, response.headers.has name = true → name ∈ allowedResponseHeaders ∨
      startsWith name "x-kc-" = false ∧ ∃ entry ∈ extra.values, byteLower entry.1 = name) ∧
      response.headers.get? "x-kc-request-id" =
        some ("x-kc-request-id", normalizeValue (requestId extra)) ∧
      response.status = upstream.status ∧
      response.body =
        (if 400 ≤ upstream.status then upstream.body.map sanitizeStream else upstream.body) ∧
      (400 ≤ upstream.status → upstream.body.isSome = true →
        response.headers.has "content-length" = true →
          ∃ entry ∈ extra.values, byteLower entry.1 = "content-length") := by
  simp only [toClientResponse, Option.bind_eq_bind, Option.bind_eq_some_iff] at made
  obtain ⟨plain, normal, headers, merged, made⟩ := made
  obtain rfl := Option.some.inj made
  have spec := normalized normal
  have foreign : ∀ entry ∈ extra.values,
      (!startsWith (Host.toLowerCase entry.1) "x-kc-") = true →
        startsWith (byteLower entry.1) "x-kc-" = false := by
    intro entry mem kept
    have token := token_putWhere merged entry mem kept
    rwa [TokenHost.lower_token entry.1 token, Bool.not_eq_true'] at kept
  refine ⟨?_, ?_, spec.status, spec.body, ?_⟩
  · intro name present
    obtain listed | ⟨entry, mem, kept, rfl⟩ := (has_putWhere merged name).mp present
    · exact .inl (spec.allowed name listed)
    · exact .inr ⟨foreign entry mem kept, entry, mem, rfl⟩
  · change headers.get? _ = _
    rw [get?_putWhere merged, spec.requestId]
    intro entry mem kept same
    have own := foreign entry mem kept
    rw [same] at own
    exact absurd own (by decide)
  · intro failed body present
    obtain listed | ⟨entry, mem, -, same⟩ := (has_putWhere merged "content-length").mp present
    · rw [spec.length failed body] at listed
      cases listed
    · exact ⟨entry, mem, same⟩

end

section

attribute [local instance] asciiHost

/-- A provider's error with a cookie. -/
def failedResponse : Response where
  status := 401
  headers := (IndexedMap.empty.set ("set-cookie", "session=1")).set ("content-length", "2")
  body := some [[0x7B, 0x7D]]

def traced : Headers := IndexedMap.empty.set ("x-kc-trace-id", "trace")

theorem toClientResponse_failed :
    ∃ response, toClientResponse failedResponse traced = some response ∧
      response.headers.get? "x-kc-request-id" = some ("x-kc-request-id", "trace") ∧
      response.headers.has "set-cookie" = false ∧
      response.headers.has "content-length" = false ∧
      response.body = some (sanitizeStream [[0x7B, 0x7D]]) := by
  have := token_ascii
  obtain ⟨response, made⟩ := Option.isSome_iff_exists.mp
    (by decide : (toClientResponse failedResponse traced).isSome)
  obtain ⟨listed, tagged, -, body, length⟩ := toClientResponse_spec made
  refine ⟨response, made, tagged, ?_, ?_, body⟩
  · by_contra present
    obtain allowed | ⟨-, entry, mem, same⟩ := listed _ (Bool.not_eq_false _ ▸ present)
    · exact absurd allowed (by decide)
    · obtain rfl := List.mem_singleton.mp mem
      exact absurd same (by decide)
  · by_contra present
    obtain ⟨entry, mem, same⟩ := length (by decide) rfl (Bool.not_eq_false _ ▸ present)
    obtain rfl := List.mem_singleton.mp mem
    exact absurd same (by decide)

end

end KeyCollective.Upstream
