import KeyCollective.Pool.OwnKeys
import KeyCollective.Router.Outcomes

/-!
# Communal dispatches

The router takes its keys from the pool and tells the pool, of each dispatch, whether it
was communal. It asks once per request whether the first candidate's provider has a key;
whose key then answers it does not ask. The labels come out true where it cannot matter:
where the keys that may answer a request are all the tenant's own, or all others'.
-/

namespace KeyCollective

/-- The text of a pool's error, as the router receives it. -/
def PoolError.message : PoolError → String
  | .invalidKey message _ | .tenantIsolation message .. | .keyNotFound _ message _ => message
  | .exhausted error => error.message
  | .typeError => "Cannot read properties of null (reading 'id')"

/-- What a call on the pool finds beside the pool's state. -/
structure PoolCall where
  now : Int
  draw : Nat
  db : Option (List KeyRow)

/-- A candidate, the call for its key, and its round. The pool's answer takes the place of
`round.acquired`. -/
structure Turn where
  candidate : ModelDef
  call : PoolCall
  round : Round

structure RoutedRequest where
  request : CascadeRouteRequest
  /-- The call of the availability check. -/
  probe : PoolCall
  turns : List Turn

/-- The dispatches among the reports, in order. -/
def dispatches (reports : List PoolReport) : List (String × Bool) :=
  reports.filterMap fun
    | .recordDispatch keyId isCommunal => some (keyId, isCommunal)
    | _ => none

@[simp] theorem dispatches_nil : dispatches [] = [] := rfl

section Routing

variable [Host]

namespace CascadeRouter

variable (router : CascadeRouter) (pool : KeyPool)

/-- `checkSelfKeyAvailable`: any key of the provider will do. -/
def checkSelfKeyAvailable (st : KeyPool.State) (provider : String) (call : PoolCall) :
    Bool × KeyPool.State :=
  if router.hasKeyPool then
    match pool.getKey st provider call.now call.draw call.db with
    | (.ok _, st) => (true, st)
    | (.error _, st) => (false, st)
  else (false, st)

/-- The check is made for a named tenant, on the first candidate. -/
def selfKeyRouted (st : KeyPool.State) (routed : RoutedRequest) (turns : List Turn) :
    Bool × KeyPool.State :=
  match turns with
  | [] => (false, st)
  | first :: _ =>
    if isFalsy routed.request.tenantId then (false, st)
    else router.checkSelfKeyAvailable pool st first.candidate.provider routed.probe

/-- The round with the pool's answer, which is asked for a request without a key of its own. -/
def askPool (request : CascadeRouteRequest) (turn : Turn) (st : KeyPool.State) :
    Round × KeyPool.State :=
  if isFalsy request.apiKey ∧ router.hasKeyPool then
    let (answer, st) := pool.getKey st turn.candidate.provider turn.call.now turn.call.draw
      turn.call.db
    ({ turn.round with acquired := answer.mapError PoolError.message }, st)
  else (turn.round, st)

/-- The loop of `tryCandidates`, with the pool that takes the reports and is asked as `ask`
says. -/
def tryTurnsWith (ask : Turn → KeyPool.State → Round × KeyPool.State)
    (request : CascadeRouteRequest) (selfKeyRouted : Bool) :
    List Turn → List Sent → List FallbackAttempt → KeyPool.State → Cascade × KeyPool.State
  | [], sent, attempts, st => (⟨sent, .error (.exhausted attempts)⟩, st)
  | turn :: rest, sent, attempts, st =>
    if turn.round.abortedBefore then (⟨sent, .error .aborted⟩, st)
    else
      let (round, st) := ask turn st
      match router.acquireKey request round with
      | .error message =>
        let failure : FallbackAttempt :=
          ⟨turn.candidate.provider, turn.candidate.id, .keyAcquisition message⟩
        tryTurnsWith ask request selfKeyRouted rest sent (attempts ++ [failure]) st
      | .ok (keyId, apiKey) =>
        match router.executeRound request selfKeyRouted attempts turn.candidate round keyId
            apiKey with
        | (made, .answered response) =>
          (⟨sent ++ [made], .ok response⟩,
            pool.recordAll turn.call.db round.now st made.reports)
        | (made, .cancelled failure) =>
          (⟨sent ++ [made], .error (.cancelled failure)⟩,
            pool.recordAll turn.call.db round.now st made.reports)
        | (made, .failed failure) =>
          tryTurnsWith ask request selfKeyRouted rest (sent ++ [made])
            (attempts ++ [⟨turn.candidate.provider, turn.candidate.id, failure⟩])
            (pool.recordAll turn.call.db round.now st made.reports)

def tryTurns (request : CascadeRouteRequest) (selfKeyRouted : Bool) (turns : List Turn)
    (sent : List Sent) (attempts : List FallbackAttempt) (st : KeyPool.State) :
    Cascade × KeyPool.State :=
  router.tryTurnsWith pool (router.askPool pool request) request selfKeyRouted turns sent attempts
    st

def turnsToTry (routed : RoutedRequest) : List Turn :=
  routed.turns.take (1 + routed.request.maxFallbacks.getD router.maxFallbacks)

def route (st : KeyPool.State) (routed : RoutedRequest) : Cascade × KeyPool.State :=
  let turns := router.turnsToTry routed
  let (selfKeyRouted, st) := router.selfKeyRouted pool st routed turns
  router.tryTurns pool routed.request selfKeyRouted turns [] [] st

end CascadeRouter

/-! ## Reports of an exchange -/

namespace UpstreamClient

variable (client : UpstreamClient)

end UpstreamClient

/-- An exchange in which the pool and the resolver give out a key and the provider answers. -/
def Exchange.answered : Exchange where
  poolKey := .ok "key"
  resolvedKey := .ok "key"
  fetch := .responded { status := 200 }

namespace UpstreamClient

variable {client : UpstreamClient} {request : UpstreamChatRequest} {id : String}

end UpstreamClient

/-! ## The labels of a cascade -/

namespace CascadeRouter

variable (router : CascadeRouter) (owner : String → String) (tenantId : String)

variable {router owner tenantId}

end CascadeRouter

/-! ## The keys a pool may give out -/

namespace CascadeRouter

variable (router : CascadeRouter) (pool : KeyPool) (owner : String → String) (tenantId : String)

/-- The calls a request may make. -/
def calls (routed : RoutedRequest) : List PoolCall :=
  routed.probe :: (router.turnsToTry routed).map Turn.call

variable {router pool owner tenantId}

/-- A turn that is not taken. -/
def Turn.untaken (turn : Turn) : ModelDef × Round :=
  (turn.candidate, { turn.round with acquired := .error "" })

/-- Every dispatch of another owner's key has been counted as communal, and no other. -/
def Counted (owner : String → String) (tenantId : String) (st : KeyPool.State) : Prop :=
  ∀ id, st.dispatchedCommunal id = if owner id = tenantId then 0 else st.dispatchedToday id

/-- What happens to the tenant's pool: its requests are routed, it is called otherwise, its
alarm goes off. -/
inductive PoolEvent where
  | routed (routed : RoutedRequest)
  | called (event : KeyPool.Event)
  | alarm

variable (router pool owner tenantId)

def serve (st : KeyPool.State) : PoolEvent → KeyPool.State
  | .routed routed => (router.route pool st routed).2
  | .called event => pool.after st event
  | .alarm => { st with dispatchedToday := fun _ => 0, dispatchedCommunal := fun _ => 0 }

variable {router pool owner tenantId}

end CascadeRouter

end Routing

section Examples

attribute [local instance] asciiHost

open KeyPool

/-- A request to `llama` on a key of the pool, answered at once. -/
def llamaRequest (tenantId : Option String) : RoutedRequest where
  request := { stream := false, tenantId }
  probe := ⟨0, 0, none⟩
  turns :=
    [{ candidate := llama
       call := ⟨0, 0, none⟩
       round :=
        { acquired := .error ""
          exchange := { resolvedKey := .ok "gsk_1", fetch := .responded { status := 200 } } } }]

def acmeRouter : CascadeRouter := RouterSource.resolver.router ⟨.empty, .empty⟩

end Examples

end KeyCollective
