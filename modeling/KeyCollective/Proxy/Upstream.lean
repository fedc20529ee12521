import KeyCollective.Router.Registry

/-!
# UpstreamClient

One exchange with a provider and what it reports to the key pool. What the
outside answers in an exchange is an input: the pool's and the resolver's answers,
whether the request can be built, and what `fetch` yields. Of a payload only the
usage found in it is kept. A function that reports returns its reports, in order,
beside its result.
-/

namespace KeyCollective

/-- A call of the client or the router on the key pool. -/
inductive PoolReport where
  | recordResult (keyId : String) (success : Bool)
  | recordUsage (keyId : String) (costMicrodollars : Int)
  | recordDispatch (keyId : String) (isCommunal : Bool)
deriving DecidableEq, Repr

/-- `Partial<StreamUsage>`: what one payload says about usage. -/
structure UsageUpdate where
  promptTokens : Option Int := none
  completionTokens : Option Int := none
  totalTokens : Option Int := none
  cachedTokens : Option Int := none
  reasoningTokens : Option Int := none
deriving DecidableEq, Repr

/-- The usage of a whole JSON payload. -/
def UsageUpdate.extracted (update : UsageUpdate) : StreamUsage :=
  let prompt := update.promptTokens.getD 0
  let completion := update.completionTokens.getD 0
  { promptTokens := prompt
    completionTokens := completion
    totalTokens := update.totalTokens.getD (prompt + completion)
    cachedTokens := update.cachedTokens
    reasoningTokens := update.reasoningTokens }

/-- The counters of a stream transformer. -/
structure StreamCounters where
  promptTokens : Int := 0
  completionTokens : Int := 0
  cachedTokens : Int := 0
  reasoningTokens : Int := 0
  usage : Option StreamUsage := none

def applyUsageUpdate (counters : StreamCounters) (update : UsageUpdate) : StreamCounters :=
  let promptTokens := update.promptTokens.getD counters.promptTokens
  let completionTokens := update.completionTokens.getD counters.completionTokens
  let cachedTokens := update.cachedTokens.getD counters.cachedTokens
  let reasoningTokens := update.reasoningTokens.getD counters.reasoningTokens
  { promptTokens, completionTokens, cachedTokens, reasoningTokens
    usage := some
      { promptTokens
        completionTokens
        totalTokens := update.totalTokens.getD (promptTokens + completionTokens)
        cachedTokens := if 0 < cachedTokens then some cachedTokens else none
        reasoningTokens := if 0 < reasoningTokens then some reasoningTokens else none } }

/-- The usage a stream ends with. -/
def streamUsage (updates : List UsageUpdate) : Option StreamUsage :=
  (updates.foldl applyUsageUpdate {}).usage

/-- How reading a body as JSON fails. -/
inductive BodyFailure where
  /-- The body breaks off, with an error of that name. -/
  | read (name : String)
  | parse
deriving DecidableEq, Repr

def BodyFailure.name : BodyFailure → String
  | read name => name
  | parse => "SyntaxError"

structure HttpResponse where
  status : Nat
  contentType : String := ""
  hasBody : Bool := true
  /-- Reading the body as JSON, and the usage found in it. -/
  json : Except BodyFailure (Option UsageUpdate) := .ok none
  /-- The usage blocks of its events, read as a stream. -/
  updates : List UsageUpdate := []

/-- Reading the body breaks off. -/
def HttpResponse.breaksOff (response : HttpResponse) : Bool :=
  match response.json with
  | .error (.read _) => true
  | _ => false

/-- `response.ok`. -/
def HttpResponse.ok (response : HttpResponse) : Bool :=
  200 ≤ response.status ∧ response.status ≤ 299

inductive FetchOutcome where
  | failed (timedOut : Bool)
  | responded (response : HttpResponse)

/-- What the outside answers in one exchange. -/
structure Exchange where
  /-- The pool's answer to the client itself, or the error. -/
  poolKey : Except String String := .error "KeyNotFoundError"
  /-- The resolver's answer, or the name of the error. -/
  resolvedKey : Except String String
  /-- The URL and the headers can be built. -/
  sendable : Bool := true
  fetch : FetchOutcome

inductive UpstreamFailure where
  | keyAcquisition (message : String)
  | keyResolution (name : String)
  | invalidKey
  | unsendable
  | timeout
  | network
  | status (code : Nat)
  | emptyStreamBody
  | body (name : String)
  | cost
deriving DecidableEq, Repr

/-- `err.name === "AbortError"`. The client's own errors have other names. -/
def UpstreamFailure.isAbort : UpstreamFailure → Bool
  | .keyResolution name | .body name => name = "AbortError"
  | _ => false

structure UpstreamChatRequest where
  provider : String
  model : String
  stream : Bool
  apiKey : Option String
  keyId : Option String

/-- A response that has arrived, with what reading it does. -/
structure UpstreamResponse where
  status : Nat
  isStream : Bool
  /-- The reports made when a stream has been read to its end. -/
  onDone : List PoolReport
  /-- The reports made by `json()`, and its error. -/
  json : List PoolReport × Except UpstreamFailure Unit
  /-- What `getUsage` returns once the response is read. -/
  usage : Option StreamUsage

structure UpstreamChatResponse where
  usage : Option StreamUsage
  costMicrodollars : Int
  response : UpstreamResponse

structure UpstreamClient where
  hasKeyPool : Bool
  hasKeyResolver : Bool
  /-- `none` as its result is an error it throws. -/
  costCalculator : Option (String → StreamUsage → Option Int)

namespace UpstreamClient

variable (client : UpstreamClient)

/-- The key id the client reports under, and the credential it sends. -/
def resolveCredential (request : UpstreamChatRequest) (exchange : Exchange) :
    Except UpstreamFailure (Option String × Option String) :=
  let resolve (keyId : String) : Except UpstreamFailure (Option String × Option String) :=
    match exchange.resolvedKey with
    | .error name => .error (.keyResolution name)
    | .ok apiKey => .ok (some keyId, some apiKey)
  if request.apiKey.all isBlank ∧ client.hasKeyPool then
    match exchange.poolKey with
    | .error message => .error (.keyAcquisition message)
    | .ok poolKey =>
      let keyId := request.keyId.getD poolKey
      if client.hasKeyResolver then resolve keyId else .ok (some keyId, some poolKey)
  else match request.apiKey.filter (· ≠ "") with
    | some apiKey =>
      if client.hasKeyResolver ∧ (startsWith apiKey "key_" ∨
          ¬startsWith apiKey "AIza" ∧ ¬startsWith apiKey "gsk_" ∧ ¬startsWith apiKey "sk-") then
        resolve (request.keyId.getD apiKey)
      else .ok (request.keyId, some apiKey)
    | none => .ok (request.keyId, request.apiKey)

/-- The reports on a key, made only with a pool and a key id. -/
def reportsOn (keyId : Option String) (reports : String → List PoolReport) : List PoolReport :=
  match keyId.filter (· ≠ "") with
  | some id => if client.hasKeyPool then reports id else []
  | none => []

/-- The usage report of a finished response, when the client has a calculator. -/
def usageReports (model : String) (usage : Option StreamUsage) (keyId : String) :
    List PoolReport :=
  match usage, client.costCalculator with
  | some usage, some calculate =>
    if model = "" then []
    else match calculate model usage with
      | some cost => [.recordUsage keyId cost]
      | none => []
  | _, _ => []

def readStream (request : UpstreamChatRequest) (keyId : Option String)
    (response : HttpResponse) : UpstreamResponse :=
  let usage := streamUsage response.updates
  let onDone := client.reportsOn keyId fun id =>
    .recordResult id true :: client.usageReports request.model usage id
  { status := response.status
    isStream := true
    onDone
    -- `json()` reads the stream before it parses the text; one that breaks off has no end.
    json := match response.json with
      | .error (.read name) => ([], .error (.body name))
      | .error .parse => (onDone, .error (.body BodyFailure.parse.name))
      | .ok _ => (onDone, .ok ())
    usage }

def readPlain (request : UpstreamChatRequest) (keyId : Option String)
    (response : HttpResponse) : UpstreamResponse :=
  match response.json with
  | .error failure =>
    { status := response.status
      isStream := false
      onDone := []
      json := ([], .error (.body failure.name))
      usage := none }
  | .ok update =>
    let usage := update.map UsageUpdate.extracted
    { status := response.status
      isStream := false
      onDone := []
      json := (client.reportsOn keyId (client.usageReports request.model usage), .ok ())
      usage }

def send (request : UpstreamChatRequest) (exchange : Exchange) :
    List PoolReport × Except UpstreamFailure UpstreamResponse :=
  match client.resolveCredential request exchange with
  | .error failure => ([], .error failure)
  | .ok (keyId, apiKey) =>
    if apiKey.all isBlank then ([], .error .invalidKey)
    else if ¬exchange.sendable then ([], .error .unsendable)
    else match exchange.fetch with
      | .failed timedOut =>
        (client.reportsOn keyId fun id => [.recordResult id false],
          .error (if timedOut then .timeout else .network))
      | .responded response =>
        if ¬response.ok then
          (client.reportsOn keyId fun id => [.recordResult id false],
            .error (.status response.status))
        else if request.stream ∨ includes response.contentType "text/event-stream" then
          if ¬response.hasBody then ([], .error .emptyStreamBody)
          else ([], .ok (client.readStream request keyId response))
        else
          (client.reportsOn keyId fun id => [.recordResult id true],
            .ok (client.readPlain request keyId response))

def chat (request : UpstreamChatRequest) (exchange : Exchange) :
    List PoolReport × Except UpstreamFailure UpstreamChatResponse :=
  match client.send request exchange with
  | (reports, .error failure) => (reports, .error failure)
  | (reports, .ok response) =>
    if request.stream then (reports, .ok { usage := none, costMicrodollars := 0, response })
    else match response.json with
      | (read, .error failure) => (reports ++ read, .error failure)
      | (read, .ok ()) =>
        match response.usage, client.costCalculator with
        | some usage, some calculate =>
          match calculate request.model usage with
          | some cost =>
            (reports ++ read, .ok { usage := some usage, costMicrodollars := cost, response })
          | none => (reports ++ read, .error .cost)
        | usage, _ => (reports ++ read, .ok { usage, costMicrodollars := 0, response })

/-! ## What an exchange that succeeds has done -/

/-- A response that arrived is streamed, or read as a whole with its success reported. -/
theorem send_ok {request : UpstreamChatRequest} {exchange : Exchange}
    {reports : List PoolReport} {response : UpstreamResponse}
    (sent : client.send request exchange = (reports, .ok response)) :
    ∃ keyId apiKey http,
      client.resolveCredential request exchange = .ok (keyId, apiKey) ∧ http.ok = true ∧
      exchange.fetch = .responded http ∧
      (reports = [] ∧ http.hasBody = true ∧ response = client.readStream request keyId http ∨
        request.stream = false ∧
          reports = client.reportsOn keyId (fun id => [.recordResult id true]) ∧
          response = client.readPlain request keyId http) := by
  unfold send at sent
  cases credential : client.resolveCredential request exchange with
  | error failure => simp [credential] at sent
  | ok pair =>
    obtain ⟨keyId, apiKey⟩ := pair
    simp only [credential] at sent
    split at sent
    · simp at sent
    split at sent
    · simp at sent
    cases fetched : exchange.fetch with
    | failed timedOut => simp [fetched] at sent
    | responded http =>
      simp only [fetched] at sent
      refine ⟨keyId, apiKey, http, rfl, ?_⟩
      split at sent
      · simp at sent
      rename_i accepted
      refine ⟨by simpa using accepted, rfl, ?_⟩
      split at sent
      · split at sent
        · simp at sent
        · rename_i body
          simp only [Prod.mk.injEq, Except.ok.injEq] at sent
          exact Or.inl ⟨sent.1.symm, by simpa using body, sent.2.symm⟩
      · rename_i plain
        simp only [Prod.mk.injEq, Except.ok.injEq] at sent
        exact Or.inr ⟨by simpa using fun h => plain (Or.inl h), sent.1.symm, sent.2.symm⟩

/-- A streamed exchange has reported nothing yet when it answers, and knows no usage. -/
theorem chat_stream_ok {request : UpstreamChatRequest} {exchange : Exchange}
    {reports : List PoolReport} {chatRes : UpstreamChatResponse} (stream : request.stream = true)
    (answered : client.chat request exchange = (reports, .ok chatRes)) :
    reports = [] ∧ chatRes.usage = none ∧ chatRes.costMicrodollars = 0 ∧
      ∃ keyId apiKey http, client.resolveCredential request exchange = .ok (keyId, apiKey) ∧
        chatRes.response = client.readStream request keyId http := by
  unfold chat at answered
  cases sent : client.send request exchange with
  | mk early result =>
    cases result with
    | error failure => simp [sent] at answered
    | ok response =>
      simp only [sent, stream, ↓reduceIte, Prod.mk.injEq, Except.ok.injEq] at answered
      obtain ⟨rfl, rfl⟩ := answered
      obtain ⟨keyId, apiKey, http, credential, -, -, streamed | plain⟩ := client.send_ok sent
      · exact ⟨streamed.1, rfl, rfl, keyId, apiKey, http, credential, streamed.2.2⟩
      · rw [plain.1] at stream
        cases stream

/-- An exchange that is not streamed answers with the usage of the response it read, and
the client's cost of that usage. -/
theorem chat_plain_ok {request : UpstreamChatRequest} {exchange : Exchange}
    {reports : List PoolReport} {chatRes : UpstreamChatResponse} (plain : request.stream = false)
    (answered : client.chat request exchange = (reports, .ok chatRes)) :
    chatRes.usage = chatRes.response.usage ∧
      (chatRes.costMicrodollars = 0 ∨
        ∃ usage calculate, chatRes.usage = some usage ∧ client.costCalculator = some calculate ∧
          calculate request.model usage = some chatRes.costMicrodollars) := by
  unfold chat at answered
  cases sent : client.send request exchange with
  | mk early result =>
    cases result with
    | error failure => simp [sent] at answered
    | ok response =>
      simp only [sent, plain, Bool.false_eq_true, ↓reduceIte] at answered
      cases parsed : response.json with
      | mk read outcome =>
        cases outcome with
        | error failure => simp [parsed] at answered
        | ok done =>
          simp only [parsed] at answered
          cases found : response.usage with
          | none =>
            simp only [found, Prod.mk.injEq, Except.ok.injEq] at answered
            obtain ⟨-, rfl⟩ := answered
            exact ⟨found.symm, Or.inl rfl⟩
          | some usage =>
            cases calculator : client.costCalculator with
            | none =>
              simp only [found, calculator, Prod.mk.injEq, Except.ok.injEq] at answered
              obtain ⟨-, rfl⟩ := answered
              exact ⟨found.symm, Or.inl rfl⟩
            | some calculate =>
              simp only [found, calculator] at answered
              cases computed : calculate request.model usage with
              | none => simp [computed] at answered
              | some cost =>
                simp only [computed, Prod.mk.injEq, Except.ok.injEq] at answered
                obtain ⟨-, rfl⟩ := answered
                exact ⟨found.symm, Or.inr ⟨usage, calculate, rfl, rfl, computed⟩⟩

end UpstreamClient

/-! ## Usage reports -/

def PoolReport.usage : PoolReport → Option (String × Int)
  | .recordUsage keyId costMicrodollars => some (keyId, costMicrodollars)
  | _ => none

/-- The usage reports among the reports, in order. -/
def usages (reports : List PoolReport) : List (String × Int) := reports.filterMap PoolReport.usage

@[simp] theorem usages_nil : usages [] = [] := rfl

@[simp] theorem usages_append (xs ys : List PoolReport) :
    usages (xs ++ ys) = usages xs ++ usages ys :=
  List.filterMap_append

@[simp] theorem usages_recordResult (keyId : String) (success : Bool)
    (rest : List PoolReport) : usages (.recordResult keyId success :: rest) = usages rest := rfl

@[simp] theorem usages_recordDispatch (keyId : String) (isCommunal : Bool)
    (rest : List PoolReport) : usages (.recordDispatch keyId isCommunal :: rest) = usages rest :=
  rfl

@[simp] theorem usages_recordUsage (keyId : String) (costMicrodollars : Int)
    (rest : List PoolReport) :
    usages (.recordUsage keyId costMicrodollars :: rest) =
      (keyId, costMicrodollars) :: usages rest := rfl

namespace UpstreamClient

variable {client : UpstreamClient}

section Kinds

/-! An exchange reports results and what `usageReports` gives, and nothing else. -/

variable {P : PoolReport → Prop}

theorem forall_reportsOn {reports : String → List PoolReport}
    (each : ∀ id, ∀ report ∈ reports id, P report) (keyId : Option String) :
    ∀ report ∈ client.reportsOn keyId reports, P report := by
  unfold reportsOn
  split
  · split
    · exact each _
    · exact fun _ mem => absurd mem List.not_mem_nil
  · exact fun _ mem => absurd mem List.not_mem_nil

variable (costs : ∀ model usage id, ∀ report ∈ client.usageReports model usage id, P report)
include costs

theorem forall_readPlain (request : UpstreamChatRequest) (keyId : Option String)
    (http : HttpResponse) : ∀ report ∈ (client.readPlain request keyId http).json.1, P report := by
  unfold readPlain
  cases http.json with
  | error failure => exact fun _ mem => absurd mem List.not_mem_nil
  | ok update => exact forall_reportsOn (costs request.model _) keyId

variable (results : ∀ id success, P (.recordResult id success))
include results

theorem forall_readStream (request : UpstreamChatRequest) (keyId : Option String)
    (http : HttpResponse) : ∀ report ∈ (client.readStream request keyId http).onDone, P report := by
  apply forall_reportsOn
  intro id report mem
  rcases List.mem_cons.mp mem with rfl | mem
  · exact results id true
  · exact costs request.model _ id report mem

theorem forall_readStream_json (request : UpstreamChatRequest) (keyId : Option String)
    (http : HttpResponse) : ∀ report ∈ (client.readStream request keyId http).json.1, P report := by
  have done := forall_readStream costs results request keyId http
  cases parsed : http.json with
  | error failure =>
    cases failure with
    | read name => simp [readStream, parsed]
    | parse => simpa only [readStream, parsed] using done
  | ok update => simpa only [readStream, parsed] using done

theorem forall_send (request : UpstreamChatRequest) (exchange : Exchange) :
    (∀ report ∈ (client.send request exchange).1, P report) ∧
      ∀ response, (client.send request exchange).2 = .ok response →
        ∀ report ∈ response.json.1, P report := by
  have result (keyId : Option String) (success : Bool) :
      ∀ report ∈ client.reportsOn keyId fun id => [.recordResult id success], P report := by
    apply forall_reportsOn
    intro id report mem
    rw [List.mem_singleton.mp mem]
    exact results id success
  constructor
  · unfold send
    repeat' split
    all_goals first
      | exact fun _ mem => absurd mem List.not_mem_nil
      | exact result _ _
  · intro response ok
    have sent : client.send request exchange = ((client.send request exchange).1, .ok response) :=
      Prod.ext rfl ok
    obtain ⟨keyId, apiKey, http, -, -, -, streamed | plain⟩ := send_ok client sent
    · rw [streamed.2.2]
      exact forall_readStream_json costs results request keyId http
    · rw [plain.2.2]
      exact forall_readPlain costs request keyId http

theorem forall_chat (request : UpstreamChatRequest) (exchange : Exchange) :
    ∀ report ∈ (client.chat request exchange).1, P report := by
  obtain ⟨early, read⟩ := forall_send costs results request exchange
  unfold chat
  revert early read
  rcases client.send request exchange with ⟨reports, failure | response⟩
  · exact fun early _ => early
  · intro early read
    have whole : ∀ report ∈ reports ++ response.json.1, P report :=
      List.forall_mem_append.mpr ⟨early, read response rfl⟩
    simp only
    split
    · exact early
    · revert whole
      rcases response.json with ⟨read, failure | done⟩
      · exact id
      · intro whole
        simp only
        repeat' split
        all_goals exact whole

end Kinds

variable (uncosted : client.costCalculator = none)
include uncosted

theorem usageReports_uncosted (model : String) (usage : Option StreamUsage) (keyId : String) :
    client.usageReports model usage keyId = [] := by
  unfold usageReports
  rw [uncosted]
  cases usage <;> rfl

theorem usage_uncosted (model : String) (usage : Option StreamUsage) (keyId : String) :
    ∀ report ∈ client.usageReports model usage keyId, report.usage = none := by
  rw [usageReports_uncosted uncosted]
  exact fun _ mem => absurd mem List.not_mem_nil

/-- A client without a calculator reports no usage when it reads a stream. -/
theorem usages_readStream (request : UpstreamChatRequest) (keyId : Option String)
    (http : HttpResponse) : usages (client.readStream request keyId http).onDone = [] :=
  List.filterMap_eq_nil_iff.mpr
    (forall_readStream (usage_uncosted uncosted) (fun _ _ => rfl) request keyId http)

/-- A client without a calculator reports no usage during an exchange. -/
theorem usages_chat (request : UpstreamChatRequest) (exchange : Exchange) :
    usages (client.chat request exchange).1 = [] :=
  List.filterMap_eq_nil_iff.mpr
    (forall_chat (usage_uncosted uncosted) (fun _ _ => rfl) request exchange)

end UpstreamClient

end KeyCollective
