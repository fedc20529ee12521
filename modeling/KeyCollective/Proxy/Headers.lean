import KeyCollective.Host
import KeyCollective.Lib.IndexedMap

/-!
# Upstream headers

The client's headers are filtered, content negotiation is filled in, and the key is injected
under the header of the provider. Headers are kept under their lower-case names.
-/

namespace KeyCollective.Upstream

def hopByHopHeaders : List String :=
  ["connection", "keep-alive", "proxy-authenticate", "proxy-authorization", "te", "trailer",
    "transfer-encoding", "upgrade", "host"]

def clientAuthHeaders : List String :=
  ["authorization", "x-api-key", "api-key", "proxy-authorization", "kc-token", "kc-tenant-id",
    "kc-trace-id", "kc-key-id"]

/-- Lower case as HTTP has it. -/
def byteLower (name : String) : String := String.ofList (name.toList.map Char.toLower)

def isTokenChar (c : Char) : Bool := c.isAlphanum || "!#$%&'*+-.^_\x60|~".toList.contains c

def isToken (name : String) : Bool := !name.toList.isEmpty && name.toList.all isTokenChar

def isHttpSpace (c : Char) : Bool := c.toNat ∈ [0x09, 0x0A, 0x0D, 0x20]

def normalizeValue (value : String) : String :=
  String.ofList <|
    ((value.toList.dropWhile isHttpSpace).reverse.dropWhile isHttpSpace).reverse

def isHeaderValue (value : String) : Bool :=
  value.toList.all fun c => c.toNat ≤ 0xFF && c.toNat ∉ [0x00, 0x0A, 0x0D]

/-- `Headers`: a name in lower case, and its value. -/
abbrev Headers := IndexedMap (Prod.fst : String × String → String)

/-- `result.set(name, value)`. It throws unless a request may carry them. -/
def Headers.put (result : Headers) (name value : String) : Option Headers :=
  if isToken name && isHeaderValue (normalizeValue value) then
    some (result.set (byteLower name, normalizeValue value))
  else none

/-- `if (!result.has(name)) result.set(name, value)`. -/
def Headers.putMissing (result : Headers) (name value : String) : Option Headers :=
  if result.has (byteLower name) then some result else result.put name value

structure RewriteOptions where
  stream : Bool := false
  anthropicVersion : Option String := none

section

variable [Host]

/-- What the loop over the incoming headers leaves out, of a name in lower case. -/
def isStripped (lower : String) : Bool :=
  hopByHopHeaders.contains lower || clientAuthHeaders.contains lower || startsWith lower "cf-" ||
    startsWith lower "x-forwarded-"

def copyHeaders : List (String × String) → Headers → Option Headers
  | [], result => some result
  | (rawKey, value) :: rest, result =>
    if isStripped (Host.toLowerCase rawKey) then copyHeaders rest result
    else (result.put rawKey value).bind (copyHeaders rest)

def enforceContentType (result : Headers) : Option Headers :=
  result.putMissing "content-type" "application/json"

def enforceAccept (options : RewriteOptions) (result : Headers) : Option Headers :=
  if options.stream then result.put "accept" "text/event-stream"
  else result.putMissing "accept" "application/json"

def injectKey (provider apiKey : String) (options : RewriteOptions) (result : Headers) :
    Option Headers :=
  let normProvider := Host.toLowerCase provider
  if normProvider = "anthropic" then do
    let result ← result.put "x-api-key" apiKey
    result.putMissing "anthropic-version" (options.anthropicVersion.getD "2023-06-01")
  else if normProvider = "google" ∨ normProvider = "gemini" then do
    let result ← result.put "x-goog-api-key" apiKey
    result.put "authorization" ("Bearer " ++ apiKey)
  else result.put "authorization" ("Bearer " ++ apiKey)

def rewriteHeaders (provider : String) (incomingHeaders : List (String × String))
    (apiKey : Option String) (options : RewriteOptions) : Option Headers := do
  let result ← copyHeaders incomingHeaders IndexedMap.empty
  let result ← enforceContentType result
  let result ← enforceAccept options result
  match apiKey.filter fun apiKey => !isBlank apiKey with
  | some apiKey => injectKey provider apiKey options result
  | none => some result

end

/-- The default headers whose names are missing. -/
def mergeDefaults : List (String × String) → Headers → Option Headers
  | [], rewritten => some rewritten
  | (key, value) :: rest, rewritten =>
    (rewritten.putMissing key value).bind (mergeDefaults rest)

def UpstreamClient.rewriteHeaders [Host] (defaultHeaders : List (String × String))
    (provider : String) (headers : List (String × String)) (apiKey : Option String)
    (options : RewriteOptions) : Option Headers :=
  (Upstream.rewriteHeaders provider headers apiKey options).bind (mergeDefaults defaultHeaders)

/-! ## What is set -/

namespace Headers

variable {result next : Headers} {name value : String}

theorem put_eq_some (put : result.put name value = some next) :
    isToken name = true ∧ next = result.set (byteLower name, normalizeValue value) := by
  unfold Headers.put at put
  split at put
  · rename_i valid
    exact ⟨(Bool.and_eq_true_iff.mp valid).1, (Option.some.inj put).symm⟩
  · cases put

theorem get?_put (put : result.put name value = some next) (k : String) :
    next.get? k =
      if byteLower name = k then some (byteLower name, normalizeValue value)
      else result.get? k := by
  rw [(put_eq_some put).2, IndexedMap.get?_set]

theorem has_put (put : result.put name value = some next) (k : String) :
    next.has k = true ↔ k = byteLower name ∨ result.has k = true := by
  rw [(put_eq_some put).2, IndexedMap.has_iff, IndexedMap.mem_keys_set, IndexedMap.has_iff]

theorem get?_putMissing (put : result.putMissing name value = some next) {k : String}
    (other : k ≠ byteLower name) : next.get? k = result.get? k := by
  unfold Headers.putMissing at put
  split at put
  · cases put
    rfl
  · rw [get?_put put, if_neg other.symm]

theorem has_putMissing (put : result.putMissing name value = some next) :
    next.has (byteLower name) = true := by
  unfold Headers.putMissing at put
  split at put
  · rename_i present
    cases put
    exact present
  · exact (has_put put _).mpr (Or.inl rfl)

/-- A header that is there stays as it is. -/
theorem get?_putMissing_present (put : result.putMissing name value = some next) {k : String}
    (present : result.has k = true) : next.get? k = result.get? k := by
  by_cases same : k = byteLower name
  · subst same
    unfold Headers.putMissing at put
    rw [if_pos present] at put
    cases put
    rfl
  · exact get?_putMissing put same

/-- The default headers change none that was rewritten. -/
theorem get?_mergeDefaults {defaults : List (String × String)} {k : String}
    (merged : mergeDefaults defaults result = some next) (present : result.has k = true) :
    next.get? k = result.get? k := by
  induction defaults generalizing result with
  | nil =>
    cases merged
    rfl
  | cons header rest ih =>
    obtain ⟨more, put, later⟩ := Option.bind_eq_some_iff.mp merged
    have same := get?_putMissing_present put present
    rw [ih later (by rwa [IndexedMap.has, same]), same]

/-- And they bring no other names. -/
theorem get?_mergeDefaults_other {defaults : List (String × String)} {k : String}
    (merged : mergeDefaults defaults result = some next)
    (other : k ∉ defaults.map fun header => byteLower header.1) :
    next.get? k = result.get? k := by
  induction defaults generalizing result with
  | nil =>
    cases merged
    rfl
  | cons header rest ih =>
    rw [List.map_cons, List.mem_cons, not_or] at other
    obtain ⟨more, put, later⟩ := Option.bind_eq_some_iff.mp merged
    rw [ih later other.2, get?_putMissing put other.1]

end Headers

/-- What the client sends is what was rewritten and, under names that are missing, defaults. -/
theorem UpstreamClient.rewriteHeaders_eq_some [Host] {defaultHeaders : List (String × String)}
    {provider : String} {headers : List (String × String)} {apiKey : Option String}
    {options : RewriteOptions} {sent : Headers}
    (produced : UpstreamClient.rewriteHeaders defaultHeaders provider headers apiKey options =
      some sent) :
    ∃ rewritten, Upstream.rewriteHeaders provider headers apiKey options = some rewritten ∧
      ∀ k, sent.get? k ≠ rewritten.get? k →
        rewritten.has k = false ∧ k ∈ defaultHeaders.map fun header => byteLower header.1 := by
  obtain ⟨rewritten, rewrites, merged⟩ := Option.bind_eq_some_iff.mp produced
  refine ⟨rewritten, rewrites, fun k changed => ⟨?_, ?_⟩⟩
  · by_contra present
    exact changed (Headers.get?_mergeDefaults merged (by simpa using present))
  · by_contra other
    exact changed (Headers.get?_mergeDefaults_other merged other)

section

variable [Host]

/-- A header the loop copies, under this name. -/
def Forwarded (incoming : List (String × String)) (name : String) : Prop :=
  ∃ header ∈ incoming,
    isStripped (Host.toLowerCase header.1) = false ∧ byteLower header.1 = name

theorem forwarded_cons (header : String × String) (rest : List (String × String))
    (name : String) :
    Forwarded (header :: rest) name ↔
      isStripped (Host.toLowerCase header.1) = false ∧ byteLower header.1 = name ∨
        Forwarded rest name := by
  simp [Forwarded]

theorem has_copyHeaders {incoming : List (String × String)} {before result : Headers}
    (copied : copyHeaders incoming before = some result) (name : String) :
    result.has name = true ↔ before.has name = true ∨ Forwarded incoming name := by
  induction incoming generalizing before with
  | nil =>
    cases copied
    simp [Forwarded]
  | cons header rest ih =>
    rw [copyHeaders] at copied
    split at copied
    · rename_i stripped
      rw [ih copied, forwarded_cons, stripped]
      simp
    · rename_i kept
      obtain ⟨next, put, later⟩ := Option.bind_eq_some_iff.mp copied
      have kept := Bool.eq_false_of_not_eq_true kept
      rw [ih later, Headers.has_put put, forwarded_cons, kept, eq_comm]
      simp only [true_and]
      tauto

theorem tokens_of_copied {incoming : List (String × String)} {before result : Headers}
    (copied : copyHeaders incoming before = some result) :
    ∀ header ∈ incoming, isStripped (Host.toLowerCase header.1) = false →
      isToken header.1 = true := by
  induction incoming generalizing before with
  | nil => simp
  | cons first rest ih =>
    intro header mem kept
    rw [copyHeaders] at copied
    split at copied
    · rename_i stripped
      rcases List.mem_cons.mp mem with rfl | mem
      · rw [kept] at stripped
        cases stripped
      · exact ih copied header mem kept
    · obtain ⟨next, put, later⟩ := Option.bind_eq_some_iff.mp copied
      rcases List.mem_cons.mp mem with rfl | mem
      · exact (Headers.put_eq_some put).1
      · exact ih later header mem kept

/-- The headers the proxy sets itself, whatever the client sends. -/
def ownNames (provider : String) : List String :=
  "content-type" :: "accept" ::
    if Host.toLowerCase provider = "anthropic" then ["x-api-key", "anthropic-version"]
    else if Host.toLowerCase provider = "google" ∨ Host.toLowerCase provider = "gemini" then
      ["x-goog-api-key", "authorization"]
    else ["authorization"]

/-- The credentials it injects. -/
def injected (provider apiKey : String) : List (String × String) :=
  if Host.toLowerCase provider = "anthropic" then [("x-api-key", normalizeValue apiKey)]
  else if Host.toLowerCase provider = "google" ∨ Host.toLowerCase provider = "gemini" then
    [("x-goog-api-key", normalizeValue apiKey),
      ("authorization", normalizeValue ("Bearer " ++ apiKey))]
  else [("authorization", normalizeValue ("Bearer " ++ apiKey))]

end

/-- The names it may set are in lower case already. -/
def sentNames : List String :=
  ["content-type", "accept", "x-api-key", "anthropic-version", "x-goog-api-key", "authorization"]

theorem byteLower_sent : ∀ name ∈ sentNames, byteLower name = name := by decide

variable {before result : Headers}

theorem get?_enforceContentType (enforced : enforceContentType before = some result)
    {name : String} (other : name ≠ "content-type") : result.get? name = before.get? name :=
  Headers.get?_putMissing enforced ((byteLower_sent "content-type" (by decide)).symm ▸ other)

theorem has_contentType (enforced : enforceContentType before = some result) :
    result.has "content-type" = true :=
  byteLower_sent "content-type" (by decide) ▸ Headers.has_putMissing enforced

theorem get?_enforceAccept {options : RewriteOptions}
    (enforced : enforceAccept options before = some result)
    {name : String} (other : name ≠ "accept") : result.get? name = before.get? name := by
  have apart : name ≠ byteLower "accept" :=
    (byteLower_sent "accept" (by decide)).symm ▸ other
  unfold enforceAccept at enforced
  split at enforced
  · rw [Headers.get?_put enforced, if_neg apart.symm]
  · exact Headers.get?_putMissing enforced apart

theorem has_accept {options : RewriteOptions}
    (enforced : enforceAccept options before = some result) : result.has "accept" = true := by
  unfold enforceAccept at enforced
  split at enforced
  · exact (Headers.has_put enforced _).mpr (Or.inl (byteLower_sent "accept" (by decide)).symm)
  · exact byteLower_sent "accept" (by decide) ▸ Headers.has_putMissing enforced

section

variable [Host] {provider apiKey : String} {options : RewriteOptions}

/-- What the key is injected under, by provider. -/
theorem injectKey_cases (done : injectKey provider apiKey options before = some result) :
    (Host.toLowerCase provider = "anthropic" ∧
        ∃ next, before.put "x-api-key" apiKey = some next ∧
          next.putMissing "anthropic-version" (options.anthropicVersion.getD "2023-06-01") =
            some result) ∨
      (Host.toLowerCase provider ≠ "anthropic" ∧
        (Host.toLowerCase provider = "google" ∨ Host.toLowerCase provider = "gemini") ∧
          ∃ next, before.put "x-goog-api-key" apiKey = some next ∧
            next.put "authorization" ("Bearer " ++ apiKey) = some result) ∨
      (Host.toLowerCase provider ≠ "anthropic" ∧
        ¬(Host.toLowerCase provider = "google" ∨ Host.toLowerCase provider = "gemini") ∧
          before.put "authorization" ("Bearer " ++ apiKey) = some result) := by
  unfold injectKey at done
  simp only at done
  split at done
  · rename_i anthropic
    obtain ⟨next, put, later⟩ := Option.bind_eq_some_iff.mp done
    exact Or.inl ⟨anthropic, next, put, later⟩
  · rename_i other
    split at done
    · rename_i google
      obtain ⟨next, put, later⟩ := Option.bind_eq_some_iff.mp done
      exact Or.inr (Or.inl ⟨other, google, next, put, later⟩)
    · rename_i neither
      exact Or.inr (Or.inr ⟨other, neither, done⟩)

/-- The key takes the place of what the client sent under its header. -/
theorem get?_injectKey (done : injectKey provider apiKey options before = some result)
    {name : String} (other : Host.toLowerCase provider = "anthropic" → name ≠ "anthropic-version") :
    result.get? name =
      ((injected provider apiKey).find? fun header => header.1 = name).or (before.get? name) := by
  have version := byteLower_sent "anthropic-version" (by decide)
  have key := byteLower_sent "x-api-key" (by decide)
  have google_key := byteLower_sent "x-goog-api-key" (by decide)
  have bearer := byteLower_sent "authorization" (by decide)
  rcases injectKey_cases done with
    ⟨anthropic, next, put, later⟩ | ⟨other', google, next, put, later⟩ | ⟨other', neither, put⟩
  · rw [Headers.get?_putMissing later (version.symm ▸ other anthropic), Headers.get?_put put,
      injected, if_pos anthropic, key, List.find?_singleton]
    split <;> simp_all
  · rw [Headers.get?_put later, Headers.get?_put put, injected, if_neg other', if_pos google,
      google_key, bearer, List.find?_cons, List.find?_singleton]
    by_cases first : "x-goog-api-key" = name
    · subst first
      simp
    · simp only [first, decide_false, if_false]
      split <;> simp_all
  · rw [Headers.get?_put put, injected, if_neg other', if_neg neither, bearer,
      List.find?_singleton]
    split <;> simp_all

/-- Every header of its own is set. -/
theorem has_own (done : injectKey provider apiKey options before = some result)
    (typed : before.has "content-type" = true) (accepting : before.has "accept" = true) :
    ∀ name ∈ ownNames provider, result.has name = true := by
  have kept {name : String} (other : name ≠ "anthropic-version")
      (present : before.has name = true) : result.has name = true := by
    unfold IndexedMap.has at present ⊢
    rw [get?_injectKey done fun _ => other, Option.isSome_or, present, Bool.or_true]
  have key {header : String × String} (mem : header ∈ injected provider apiKey)
      (other : header.1 ≠ "anthropic-version") : result.has header.1 = true := by
    unfold IndexedMap.has
    rw [get?_injectKey done fun _ => other, Option.isSome_or, List.find?_isSome.mpr
      ⟨header, mem, decide_eq_true rfl⟩, Bool.true_or]
  intro name own
  rcases injectKey_cases done with
    ⟨anthropic, next, put, later⟩ | ⟨other', google, next, put, later⟩ | ⟨other', neither, put⟩
  · rw [ownNames, if_pos anthropic] at own
    rw [injected, if_pos anthropic] at key
    rcases (by simpa using own) with rfl | rfl | rfl | rfl
    · exact kept (by decide) typed
    · exact kept (by decide) accepting
    · exact key (List.mem_singleton_self _) (show "x-api-key" ≠ "anthropic-version" by decide)
    · exact byteLower_sent "anthropic-version" (by decide) ▸ Headers.has_putMissing later
  · rw [ownNames, if_neg other', if_pos google] at own
    rw [injected, if_neg other', if_pos google] at key
    rcases (by simpa using own) with rfl | rfl | rfl | rfl
    · exact kept (by decide) typed
    · exact kept (by decide) accepting
    · exact key List.mem_cons_self (show "x-goog-api-key" ≠ "anthropic-version" by decide)
    · exact key (List.mem_cons_of_mem _ (List.mem_singleton_self _))
        (show "authorization" ≠ "anthropic-version" by decide)
  · rw [ownNames, if_neg other', if_neg neither] at own
    rw [injected, if_neg other', if_neg neither] at key
    rcases (by simpa using own) with rfl | rfl | rfl
    · exact kept (by decide) typed
    · exact kept (by decide) accepting
    · exact key (List.mem_singleton_self _) (show "authorization" ≠ "anthropic-version" by decide)

theorem rewriteHeaders_stages {incoming : List (String × String)}
    (nonblank : isBlank apiKey = false)
    (produced : rewriteHeaders provider incoming (some apiKey) options = some result) :
    ∃ copied typed accepting, copyHeaders incoming IndexedMap.empty = some copied ∧
      enforceContentType copied = some typed ∧ enforceAccept options typed = some accepting ∧
        injectKey provider apiKey options accepting = some result := by
  obtain ⟨copied, copy, produced⟩ := Option.bind_eq_some_iff.mp produced
  obtain ⟨typed, type, produced⟩ := Option.bind_eq_some_iff.mp produced
  obtain ⟨accepting, accept, produced⟩ := Option.bind_eq_some_iff.mp produced
  rw [Option.filter_some, nonblank] at produced
  exact ⟨copied, typed, accepting, copy, type, accept, produced⟩

theorem injected_own {header : String × String} (mem : header ∈ injected provider apiKey) :
    header.1 ∈ ownNames provider := by
  unfold injected at mem
  unfold ownNames
  split at mem
  · simp_all
  · split at mem
    · rcases (by simpa using mem) with rfl | rfl <;> simp_all
    · simp_all

/-- A header that is not its own is one the loop has copied. -/
theorem get?_rewritten {copied typed accepting : Headers}
    (type : enforceContentType copied = some typed)
    (accept : enforceAccept options typed = some accepting)
    (done : injectKey provider apiKey options accepting = some result) {name : String}
    (other : name ∉ ownNames provider) : result.get? name = copied.get? name := by
  have apart : name ≠ "content-type" ∧ name ≠ "accept" := by
    constructor <;> rintro rfl <;> simp [ownNames] at other
  have absent : ((injected provider apiKey).find? fun header => header.1 = name) = none := by
    refine List.find?_eq_none.mpr fun header mem same => other ?_
    exact of_decide_eq_true same ▸ injected_own mem
  rw [get?_injectKey done ?_, absent, Option.none_or, get?_enforceAccept accept apart.2,
    get?_enforceContentType type apart.1]
  rintro anthropic rfl
  simp [ownNames, anthropic] at other

/-- The names sent upstream are its own and those the loop copies. -/
theorem has_rewriteHeaders {incoming : List (String × String)} (nonblank : isBlank apiKey = false)
    (produced : rewriteHeaders provider incoming (some apiKey) options = some result)
    (name : String) :
    result.has name = true ↔ name ∈ ownNames provider ∨ Forwarded incoming name := by
  obtain ⟨copied, typed, accepting, copy, type, accept, done⟩ :=
    rewriteHeaders_stages nonblank produced
  have typed_kept : accepting.has "content-type" = true := by
    unfold IndexedMap.has
    rw [get?_enforceAccept accept (by decide)]
    exact has_contentType type
  by_cases own : name ∈ ownNames provider
  · simp [own, has_own done typed_kept (has_accept accept) name own]
  · have copied_has := has_copyHeaders copy name
    unfold IndexedMap.has at copied_has ⊢
    rw [get?_rewritten type accept done own, copied_has]
    simp [own, IndexedMap.get?, IndexedMap.empty]

end

/-! ## Clean headers -/

/-- The names that incoming `Connection` headers list. -/
def nominated (incoming : List (String × String)) : List String :=
  (incoming.filter fun header => byteLower header.1 = "connection").flatMap fun header =>
    (header.2.toList.splitOn ',').map fun token => byteLower (normalizeValue (String.ofList token))

def credentialHeaders : List String :=
  ["authorization", "proxy-authorization", "x-api-key", "api-key", "x-goog-api-key", "cookie"]

def isRouting (name : String) : Bool :=
  startsWith name "kc-" || startsWith name "x-kc-" || startsWith name "cf-" ||
    startsWith name "x-forwarded-"

section

variable [Host]

/-- What the upstream may see. -/
structure Clean (provider : String) (incoming : List (String × String)) (apiKey : String)
    (result : Headers) : Prop where
  hopByHop : ∀ name, result.has name = true → name ∉ hopByHopHeaders ∧ name ∉ nominated incoming
  credentials : ∀ name ∈ credentialHeaders, ∀ header, result.get? name = some header →
    header ∈ injected provider apiKey
  routing : ∀ name, result.has name = true → isRouting name = false

/-- Headers the lists of the loop do for. -/
structure Covered (provider : String) (incoming : List (String × String)) : Prop where
  unlisted : ∀ name, Forwarded incoming name → name ∉ nominated incoming
  own : ∀ name ∈ ownNames provider, name ∉ nominated incoming
  cookie : ¬Forwarded incoming "cookie"
  google : Forwarded incoming "x-goog-api-key" → "x-goog-api-key" ∈ ownNames provider
  internal : ∀ name, Forwarded incoming name →
    startsWith name "kc-" = false ∧ startsWith name "x-kc-" = false

/-- Changing case as HTTP does, on the names of headers. -/
class TokenHost : Prop where
  lower_token : ∀ name, isToken name = true → Host.toLowerCase name = byteLower name

variable {provider apiKey : String} {options : RewriteOptions} {result : Headers}
  {incoming : List (String × String)}

/-- The loop's test sees the name under which the header is sent. -/
theorem kept_of_forwarded [TokenHost] (nonblank : isBlank apiKey = false)
    (produced : rewriteHeaders provider incoming (some apiKey) options = some result)
    {name : String} (forwarded : Forwarded incoming name) : isStripped name = false := by
  obtain ⟨copied, -, -, copy, -⟩ := rewriteHeaders_stages nonblank produced
  obtain ⟨header, mem, kept, rfl⟩ := forwarded
  rw [← TokenHost.lower_token header.1 (tokens_of_copied copy header mem kept)]
  exact kept

theorem ownNames_subset : ownNames provider ⊆ sentNames := by
  unfold ownNames
  split
  · decide
  · split <;> decide

theorem own_harmless {name : String} (own : name ∈ ownNames provider) :
    name ∉ hopByHopHeaders ∧ isRouting name = false := by
  have harmless : ∀ name ∈ sentNames, name ∉ hopByHopHeaders ∧ isRouting name = false := by
    decide
  exact harmless name (ownNames_subset own)

omit [Host] in
theorem stripped_false {name : String} (kept : isStripped name = false) :
    name ∉ hopByHopHeaders ∧ name ∉ clientAuthHeaders ∧ startsWith name "cf-" = false ∧
      startsWith name "x-forwarded-" = false := by
  simpa [isStripped, and_assoc] using kept

omit [Host] in
/-- Of the credentials, two are in no list. -/
theorem credential_kept {name : String} (credential : name ∈ credentialHeaders)
    (kept : isStripped name = false) : name = "x-goog-api-key" ∨ name = "cookie" := by
  have listed : ∀ name ∈ credentialHeaders, name ∈ clientAuthHeaders ∨
      name = "x-goog-api-key" ∨ name = "cookie" := by
    decide
  exact (listed name credential).resolve_left (stripped_false kept).2.1

/-- A credential it sets is one it injects. -/
theorem injected_of_own (apiKey : String) {name : String} (credential : name ∈ credentialHeaders)
    (own : name ∈ ownNames provider) : name ∈ (injected provider apiKey).map Prod.fst := by
  unfold ownNames at own
  unfold injected
  by_cases anthropic : Host.toLowerCase provider = "anthropic"
  · have table : ∀ name ∈ credentialHeaders,
        name ∈ ["content-type", "accept", "x-api-key", "anthropic-version"] →
          name ∈ ["x-api-key"] := by decide
    rw [if_pos anthropic] at own ⊢
    exact table name credential own
  · rw [if_neg anthropic] at own ⊢
    by_cases google : Host.toLowerCase provider = "google" ∨ Host.toLowerCase provider = "gemini"
    · have table : ∀ name ∈ credentialHeaders,
          name ∈ ["content-type", "accept", "x-goog-api-key", "authorization"] →
            name ∈ ["x-goog-api-key", "authorization"] := by decide
      rw [if_pos google] at own ⊢
      exact table name credential own
    · have table : ∀ name ∈ credentialHeaders,
          name ∈ ["content-type", "accept", "authorization"] → name ∈ ["authorization"] := by
        decide
      rw [if_neg google] at own ⊢
      exact table name credential own

theorem Clean.of_covered [TokenHost] (nonblank : isBlank apiKey = false)
    (produced : rewriteHeaders provider incoming (some apiKey) options = some result)
    (covered : Covered provider incoming) : Clean provider incoming apiKey result where
  hopByHop name present := by
    rcases (has_rewriteHeaders nonblank produced name).mp present with own | forwarded
    · exact ⟨(own_harmless own).1, covered.own name own⟩
    · exact ⟨(stripped_false (kept_of_forwarded nonblank produced forwarded)).1,
        covered.unlisted name forwarded⟩
  credentials name credential header found := by
    obtain ⟨copied, typed, accepting, copy, type, accept, done⟩ :=
      rewriteHeaders_stages nonblank produced
    by_cases own : name ∈ ownNames provider
    · obtain ⟨header, mem, named⟩ :=
        List.mem_map.mp (injected_of_own apiKey credential own)
      have replaced : ((injected provider apiKey).find? fun header => header.1 = name).isSome :=
        List.find?_isSome.mpr ⟨header, mem, decide_eq_true named⟩
      obtain ⟨key, sent⟩ := Option.isSome_iff_exists.mp replaced
      have other : name ≠ "anthropic-version" := by
        rintro rfl
        exact absurd credential (by decide)
      rw [get?_injectKey done fun _ => other, sent, Option.some_or] at found
      exact Option.some.inj found ▸ List.mem_of_find?_eq_some sent
    · rw [get?_rewritten type accept done own] at found
      have present : copied.has name = true := by
        rw [IndexedMap.has, found]
        rfl
      have forwarded : Forwarded incoming name := by
        simpa [IndexedMap.has, IndexedMap.get?, IndexedMap.empty]
          using (has_copyHeaders copy name).mp present
      rcases credential_kept credential (kept_of_forwarded nonblank produced forwarded) with
        rfl | rfl
      · exact absurd (covered.google forwarded) own
      · exact absurd forwarded covered.cookie
  routing name present := by
    rcases (has_rewriteHeaders nonblank produced name).mp present with own | forwarded
    · exact (own_harmless own).2
    · have kept := stripped_false (kept_of_forwarded nonblank produced forwarded)
      simp [isRouting, covered.internal name forwarded, kept]

theorem Clean.covered (nonblank : isBlank apiKey = false)
    (produced : rewriteHeaders provider incoming (some apiKey) options = some result)
    (clean : Clean provider incoming apiKey result) : Covered provider incoming := by
  have sent {name : String} (forwarded : Forwarded incoming name) : result.has name = true :=
    (has_rewriteHeaders nonblank produced name).mpr (Or.inr forwarded)
  have credential {name : String} (listed : name ∈ credentialHeaders)
      (forwarded : Forwarded incoming name) : name ∈ ownNames provider := by
    obtain ⟨header, found⟩ := Option.isSome_iff_exists.mp (sent forwarded)
    rw [← (IndexedMap.get?_some found).2]
    exact injected_own (clean.credentials name listed header found)
  refine
    { unlisted := fun name forwarded => (clean.hopByHop name (sent forwarded)).2
      own := fun name own => (clean.hopByHop name
        ((has_rewriteHeaders nonblank produced name).mpr (Or.inl own))).2
      cookie := fun forwarded => ?_
      google := credential (by decide)
      internal := fun name forwarded => ?_ }
  · have own := credential (by decide) forwarded
    unfold ownNames at own
    split at own
    · simp at own
    · split at own <;> simp at own
  · have quiet := clean.routing name (sent forwarded)
    simp only [isRouting, Bool.or_eq_false_iff] at quiet
    exact ⟨quiet.1.1.1, quiet.1.1.2⟩

/-- The headers are clean where no other name of the kinds the lists are for comes in. -/
theorem rewriteHeaders_clean_iff [TokenHost] (provider apiKey : String)
    (options : RewriteOptions) (incoming : List (String × String)) (result : Headers)
    (nonblank : isBlank apiKey = false)
    (produced : rewriteHeaders provider incoming (some apiKey) options = some result) :
    Clean provider incoming apiKey result ↔ Covered provider incoming :=
  ⟨Clean.covered nonblank produced, Clean.of_covered nonblank produced⟩

end

section

attribute [local instance] asciiHost

theorem token_ascii : TokenHost where
  lower_token _ _ := rfl

/-- A client of the gateway that names its token and its connection. -/
def plainClient : List (String × String) :=
  [("Authorization", "Bearer kc_client"), ("Connection", "keep-alive, X-Hop"), ("Accept", "*/*")]

/-- What the chat handler attaches. -/
def chatHeaders (traceId tenantId : String) : List (String × String) :=
  [("x-kc-trace-id", traceId), ("x-kc-tenant-id", tenantId)]

theorem plainClient_clean :
    ∃ result, rewriteHeaders "openai" plainClient (some "sk-up") {} = some result ∧
      Clean "openai" plainClient "sk-up" result := by
  have := token_ascii
  obtain ⟨result, produced⟩ := Option.isSome_iff_exists.mp
    (by decide : (rewriteHeaders "openai" plainClient (some "sk-up") {}).isSome)
  have only {name : String} (forwarded : Forwarded plainClient name) : name = "accept" := by
    obtain ⟨header, mem, kept, rfl⟩ := forwarded
    have names : ∀ header ∈ plainClient, isStripped (Host.toLowerCase header.1) = false →
        byteLower header.1 = "accept" := by
      decide
    exact names header mem kept
  refine ⟨result, produced, (rewriteHeaders_clean_iff "openai" "sk-up" {} plainClient result
    (by decide) produced).mpr
      { unlisted := fun name forwarded => only forwarded ▸ ?_
        own := ?_
        cookie := fun forwarded => absurd (only forwarded) (by decide)
        google := fun forwarded => absurd (only forwarded) (by decide)
        internal := fun name forwarded => only forwarded ▸ ?_ }⟩
  · decide
  · decide
  · decide

/-- Only names without the `x-` are in the list. -/
theorem chatHeaders_sent :
    ∃ result, rewriteHeaders "openai" (chatHeaders "trace" "tenant") (some "sk-up") {} =
        some result ∧
      result.has "x-kc-trace-id" = true ∧ result.has "x-kc-tenant-id" = true ∧
        ¬Clean "openai" (chatHeaders "trace" "tenant") "sk-up" result := by
  obtain ⟨result, produced⟩ := Option.isSome_iff_exists.mp
    (by decide :
      (rewriteHeaders "openai" (chatHeaders "trace" "tenant") (some "sk-up") {}).isSome)
  have forwarded (name : String) (mem : name ∈ ["x-kc-trace-id", "x-kc-tenant-id"]) :
      Forwarded (chatHeaders "trace" "tenant") name := by
    rcases (by simpa using mem) with rfl | rfl
    · exact ⟨("x-kc-trace-id", "trace"), by decide, by decide, by decide⟩
    · exact ⟨("x-kc-tenant-id", "tenant"), by decide, by decide, by decide⟩
  have sent (name : String) (mem : name ∈ ["x-kc-trace-id", "x-kc-tenant-id"]) :
      result.has name = true :=
    (has_rewriteHeaders (by decide) produced name).mpr (Or.inr (forwarded name mem))
  refine ⟨result, produced, sent _ (by decide), sent _ (by decide), fun clean => ?_⟩
  exact absurd (clean.routing "x-kc-trace-id" (sent _ (by decide))) (by decide)

end

end KeyCollective.Upstream
