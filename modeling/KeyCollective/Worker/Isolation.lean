import KeyCollective.Worker.World

/-!
# Tenants and credentials

A pool entry is bound to its tenant; the credential is looked up by its id alone.
`Safe` says when a request keeps the ids a pool holds from naming another tenant's
private row.
-/

namespace KeyCollective

open KeyPool

namespace World

variable (platform : Platform)

section Requests

variable [Host]

/-! ## What is promised -/

/-- The plaintext resolved for a tenant's dispatched key is the text of the id itself, or
was stored for the tenant, or for the tenant that has the key in the community pool. -/
def Permitted (world : World) (tenantId keyId : String) : Plaintext → Prop
  | .asGiven _ => True
  | .stored credential => credential.owner = tenantId ∨ ∃ row,
      world.apiKeys.get? (trim keyId) = some row ∧ row.poolType = .community ∧
        row.tenantId = credential.owner ∧ credential = row.encrypted.content.trimmed

/-- The row an id of the tenant's pool names, if any, is the tenant's or the community's. -/
def SafeFor (apiKeys : ApiKeys) (tenantId keyId : String) : Prop :=
  ∀ row, apiKeys.get? (trim keyId) = some row →
    row.tenantId = tenantId ∨ row.poolType = .community

/-- No pool but its tenant's holds an id of the row. -/
def Unshared (world : World) (row : ApiKeyRow) : Prop :=
  ∀ tenantId, tenantId ≠ row.tenantId →
    ∀ id, Holding (world.pools tenantId) id → trim id ≠ row.id

/-- A posted id names no other tenant's private row; a new key's id, or one that turns
private, is in no other tenant's pool; and `default`'s keys are switched by `default` or
the administrator. -/
def Safe (world : World) : WorkerRequest → Prop
  | .createKey tenantId headerTenant body entropy => ∀ row,
    handlePostKeys world.apiKeys tenantId headerTenant body entropy = some row →
      row.poolType = .community ∨ world.Unshared row
  | .postKeys tenantId body => ∀ key ∈ body.list, SafeFor world.apiKeys tenantId key.id
  | .putKeys tenantId keys => ∀ key ∈ keys.getD [], SafeFor world.apiKeys tenantId key.id
  | .poolMode tenantId keyId frozen poolType =>
    (handlePoolMode world.apiKeys tenantId keyId frozen poolType).isSome = true →
      ∀ row, world.apiKeys.get? keyId = some row →
        (tenantId ≠ "admin" → row.tenantId = "default" → tenantId = "default") ∧
        (parsePoolType poolType = some .private → world.Unshared row)
  | .chat .. | .approveAll | .evictPool _ => True

/-! ## One lemma per request -/

/-- Every row is its owner's, under an id the resolver finds it by; every id a pool holds is
safe for the pool's tenant; and the cache holds what its rows do. -/
structure Isolated (world : World) : Prop where
  rows : ∀ row ∈ world.apiKeys.values,
    trim row.id = row.id ∧ row.tenantId = row.encrypted.content.owner
  pools : ∀ tenantId,
    (platform.pool tenantId).Within (SafeFor world.apiKeys tenantId) (world.pools tenantId)
  cached : ∀ id entry, world.cache id = some entry →
    ∃ row, world.apiKeys.get? id = some row ∧ entry.key = row.encrypted.content.trimmed

variable {platform} {world : World}

omit [Host] in
theorem isolated_initial : Isolated platform (initial platform) where
  rows := fun _ mem => absurd mem List.not_mem_nil
  pools := fun _ => within_start
  cached := fun _ _ found => by cases found

omit [Host] in
/-- The rows a pool loads are its tenant's, and active ones of the community. -/
theorem offered_safe (isolated : Isolated platform world) :
    ∀ row ∈ world.apiKeys.values, ∀ tenantId, row.Offered tenantId →
      SafeFor world.apiKeys tenantId row.id := by
  intro stored mem tenantId offered row found
  have trimmed : trim stored.id = stored.id := (isolated.rows stored mem).1
  rw [trimmed, IndexedMap.get?_of_mem mem] at found
  obtain rfl := Option.some.inj found
  exact offered.2.imp id And.left

omit [Host] in
theorem setPool_isolated (isolated : Isolated platform world) {tenantId : String} {st : State}
    (within : (platform.pool tenantId).Within (SafeFor world.apiKeys tenantId) st) :
    Isolated platform (world.setPool tenantId st) :=
  ⟨isolated.rows, setPool_allows isolated.pools within, isolated.cached⟩

omit [Host] in
theorem forward_isolated (isolated : Isolated platform world) (tenantId : String)
    {call : State → State}
    (kept : (platform.pool tenantId).Within (SafeFor world.apiKeys tenantId)
      (call (world.pools tenantId))) :
    Isolated platform (world.forward platform tenantId call) := by
  rw [forward_eq (isolated.pools tenantId)]
  exact setPool_isolated isolated kept

omit [Host] in
/-- Setting a row that is its owner's: what each pool holds stays safe when the row is the
community's or in no other pool. -/
theorem set_within (isolated : Isolated platform world) {row : ApiKeyRow}
    (shared : row.poolType = .community ∨ world.Unshared row) (tenantId : String) :
    (platform.pool tenantId).Within (SafeFor (world.apiKeys.set row) tenantId)
      (world.pools tenantId) := by
  refine (isolated.pools tenantId).imp fun id held safe found eq => ?_
  rw [IndexedMap.get?_set] at eq
  split_ifs at eq with same
  · obtain rfl := Option.some.inj eq
    rcases shared with community | unshared
    · exact Or.inr community
    · by_contra neither
      have foreign : tenantId ≠ row.tenantId := fun mine => neither (Or.inl mine.symm)
      exact unshared tenantId foreign id held same.symm
  · exact safe found eq

omit [Host] in
theorem set_rows (isolated : Isolated platform world) {row : ApiKeyRow}
    (trimmed : trim row.id = row.id) (owned : row.tenantId = row.encrypted.content.owner) :
    ∀ other ∈ (world.apiKeys.set row).values,
      trim other.id = other.id ∧ other.tenantId = other.encrypted.content.owner := by
  intro other mem
  rcases IndexedMap.mem_set mem with rfl | mem
  · exact ⟨trimmed, owned⟩
  · exact isolated.rows other mem

theorem createKey_isolated (isolated : Isolated platform world) {tenantId : String}
    {headerTenant : Option String} {body : PostKeyBody} {entropy : Entropy}
    (safe : world.Safe (.createKey tenantId headerTenant body entropy)) :
    Isolated platform (world.step platform (.createKey tenantId headerTenant body entropy)) := by
  cases created : handlePostKeys world.apiKeys tenantId headerTenant body entropy with
  | none =>
    simp only [step, created]
    exact isolated
  | some row =>
    simp only [step, created]
    obtain ⟨made, absent⟩ := handlePostKeys_some created
    have trimmed : trim row.id = row.id := made ▸ trim_newKeyId body.provider entropy
    have owned : row.tenantId = row.encrypted.content.owner := made ▸ rfl
    have inserted : Isolated platform { world with apiKeys := world.apiKeys.set row } := by
      refine ⟨set_rows isolated trimmed owned, set_within isolated (safe row created), ?_⟩
      intro id entry found
      obtain ⟨stored, present, same⟩ := isolated.cached id entry found
      have other : row.id ≠ id := by
        rintro rfl
        simp [IndexedMap.has, present] at absent
      exact ⟨stored, by rw [IndexedMap.get?_set, if_neg other]; exact present, same⟩
    have posted : SafeFor (world.apiKeys.set row) row.tenantId (poolKey row body.priority).id := by
      intro found eq
      have named : (poolKey row body.priority).id = row.id := rfl
      rw [named, trimmed, IndexedMap.get?_set, if_pos rfl] at eq
      obtain rfl := Option.some.inj eq
      exact Or.inl rfl
    have closed := closed_pool inserted.pools (offered_safe inserted) row.tenantId
    exact forward_isolated inserted row.tenantId
      (closed.addKey_sat posted (inserted.pools row.tenantId)).state

theorem poolMode_isolated (isolated : Isolated platform world) {tenantId keyId : String}
    {frozen : Bool} {poolType : Option String}
    (safe : world.Safe (.poolMode tenantId keyId frozen poolType)) :
    Isolated platform (world.step platform (.poolMode tenantId keyId frozen poolType)) := by
  cases switch : handlePoolMode world.apiKeys tenantId keyId frozen poolType with
  | none =>
    simp only [step, switch]
    exact isolated
  | some apiKeys =>
    simp only [step, switch]
    have guard := safe (by rw [switch]; rfl)
    obtain ⟨type, parsed, ⟨-, rfl⟩ | ⟨row, switched, found, changed, rfl⟩⟩ :=
      handlePoolMode_some switch
    · exact ⟨isolated.rows, isolated.pools, fun _ _ found => by cases found⟩
    obtain ⟨unclaimed, unshared⟩ := guard row found
    obtain ⟨mem, named⟩ := IndexedMap.get?_some found
    obtain ⟨sameId, sameContent, switchedType, tenant⟩ := switchRow_some changed
    have sameTenant : switched.tenantId = row.tenantId := by
      rcases tenant with same | ⟨other, claimed, unowned⟩
      · exact same
      · rw [claimed, unclaimed other unowned, unowned]
    obtain ⟨trimmed, owned⟩ := isolated.rows row mem
    have shared : switched.poolType = .community ∨ world.Unshared switched := by
      cases type with
      | community => exact Or.inl switchedType
      | «private» =>
        refine Or.inr fun other foreign id held => ?_
        rw [sameId]
        exact unshared parsed other (sameTenant ▸ foreign) id held
    refine ⟨set_rows isolated ?_ ?_, set_within isolated shared, fun _ _ found => ?_⟩
    · rw [sameId]
      exact trimmed
    · rw [sameTenant, sameContent]
      exact owned
    · cases found

omit [Host] in
theorem approve_row (row : ApiKeyRow) :
    (approve row).tenantId = row.tenantId ∧ (approve row).poolType = row.poolType ∧
      (approve row).encrypted = row.encrypted := by
  unfold approve
  split
  · exact ⟨rfl, rfl, rfl⟩
  · exact ⟨rfl, rfl, rfl⟩

omit [Host] in
theorem approveAll_isolated (isolated : Isolated platform world) :
    Isolated platform { world with apiKeys := world.apiKeys.map approve approve_id } := by
  refine ⟨?_, fun tenantId => ?_, fun id entry found => ?_⟩
  · intro row mem
    obtain ⟨stored, kept, rfl⟩ := List.mem_map.mp mem
    obtain ⟨tenant, -, content⟩ := approve_row stored
    rw [approve_id, tenant, content]
    exact isolated.rows stored kept
  · refine (isolated.pools tenantId).imp fun id held safe row found => ?_
    rw [IndexedMap.get?_map] at found
    obtain ⟨stored, present, rfl⟩ := Option.map_eq_some_iff.mp found
    obtain ⟨tenant, type, -⟩ := approve_row stored
    rw [tenant, type]
    exact safe stored present
  · obtain ⟨row, present, same⟩ := isolated.cached id entry found
    obtain ⟨-, -, content⟩ := approve_row row
    refine ⟨approve row, ?_, ?_⟩
    · rw [IndexedMap.get?_map, present]
      rfl
    · rw [content]
      exact same

omit [Host] in
/-- The resolver returns the text it was given or the content of the row its id names, and
caches nothing else. -/
theorem resolve_cases (isolated : Isolated platform world) (keyId tenantId : String)
    (now : Int) :
    ((∃ text, (resolvePlaintextKey world.apiKeys world.cache keyId tenantId now).1 =
          .asGiven text) ∨
        ∃ row, world.apiKeys.get? (trim keyId) = some row ∧
          (resolvePlaintextKey world.apiKeys world.cache keyId tenantId now).1 =
            .stored row.encrypted.content.trimmed) ∧
      ∀ id entry,
        (resolvePlaintextKey world.apiKeys world.cache keyId tenantId now).2 id = some entry →
        ∃ row, world.apiKeys.get? id = some row ∧
          entry.key = row.encrypted.content.trimmed := by
  unfold resolvePlaintextKey
  by_cases empty : keyId = ""
  · rw [if_pos empty]
    exact ⟨Or.inl ⟨_, rfl⟩, isolated.cached⟩
  rw [if_neg empty]
  by_cases raw : looksRaw (trim keyId) = true
  · simp only [raw, ↓reduceIte]
    exact ⟨Or.inl ⟨_, rfl⟩, isolated.cached⟩
  simp only [raw, Bool.false_eq_true, ↓reduceIte]
  cases fresh : (world.cache (trim keyId)).filter (now < ·.expiresAt) with
  | some entry =>
    obtain ⟨row, present, same⟩ :=
      isolated.cached (trim keyId) entry (Option.filter_eq_some_iff.mp fresh).1
    refine ⟨Or.inr ⟨row, present, ?_⟩, isolated.cached⟩
    rw [← same]
  | none =>
    cases opened : (world.apiKeys.get? (trim keyId)).bind (decryptRow · tenantId) with
    | none => exact ⟨Or.inl ⟨_, rfl⟩, isolated.cached⟩
    | some credential =>
      obtain ⟨row, present, decrypted⟩ := Option.bind_eq_some_iff.mp opened
      obtain rfl := decryptRow_some decrypted
      refine ⟨Or.inr ⟨row, present, rfl⟩, fun id entry found => ?_⟩
      by_cases same : id = trim keyId
      · subst same
        simp only [Function.update_self, Option.some.injEq] at found
        exact ⟨row, present, found ▸ rfl⟩
      · simp only [Function.update_of_ne same] at found
        exact isolated.cached id entry found

/-- A dispatch keeps tenants apart, and what it resolves is permitted. -/
theorem dispatch_isolated (isolated : Isolated platform world) (tenantId provider : String)
    (now : Int) (draw : Nat) :
    Isolated platform (world.dispatch platform tenantId provider now draw).2 ∧
      ∀ keyId plaintext,
        (world.dispatch platform tenantId provider now draw).1 = some (keyId, plaintext) →
        world.Permitted tenantId keyId plaintext := by
  have rows := rowsOf_allowed (isolated.pools tenantId) fun row mem =>
    offered_safe isolated row mem tenantId
  obtain ⟨within, given⟩ := getKey_within (own tenantId) rows (isolated.pools tenantId)
    provider now draw
  unfold dispatch
  revert within given
  rcases (platform.pool tenantId).getKey (world.pools tenantId) provider now draw
    (world.rowsOf platform tenantId) with ⟨refused | id, st⟩
  · intro within _
    exact ⟨setPool_isolated isolated within, fun _ _ none => by cases none⟩
  · intro within given
    obtain ⟨resolved, cached⟩ := resolve_cases isolated id tenantId now
    have kept := setPool_isolated isolated within
    refine ⟨⟨kept.rows, kept.pools, cached⟩, ?_⟩
    rintro keyId plaintext answered
    obtain ⟨rfl, rfl⟩ := Prod.mk.inj (Option.some.inj answered)
    rcases resolved with ⟨text, eq⟩ | ⟨row, present, eq⟩
    · rw [eq]
      trivial
    · rw [eq]
      obtain ⟨mem, -⟩ := IndexedMap.get?_some present
      have owned : row.tenantId = row.encrypted.content.trimmed.owner := (isolated.rows row mem).2
      rcases given id rfl row present with mine | community
      · exact Or.inl (owned.symm.trans mine)
      · exact Or.inr ⟨row, present, community, owned, rfl⟩

theorem step_isolated (isolated : Isolated platform world) (request : WorkerRequest)
    (safe : world.Safe request) : Isolated platform (world.step platform request) := by
  cases request with
  | createKey tenantId headerTenant body entropy => exact createKey_isolated isolated safe
  | postKeys tenantId body =>
    apply forward_isolated isolated
    have closed := closed_pool isolated.pools (offered_safe isolated) tenantId
    have within := isolated.pools tenantId
    cases body with
    | batch keys => exact (closed.addKeys_sat safe within).state
    | single key => exact (closed.addKey_sat (safe key (List.mem_singleton.mpr rfl)) within).state
    | invalid => exact within
  | putKeys tenantId keys =>
    apply forward_isolated isolated
    have closed := closed_pool isolated.pools (offered_safe isolated) tenantId
    have within := isolated.pools tenantId
    cases keys with
    | none => exact within
    | some keys => exact (closed.setKeys_sat safe within).state
  | poolMode tenantId keyId frozen poolType => exact poolMode_isolated isolated safe
  | chat tenantId provider now draw =>
    exact (dispatch_isolated isolated tenantId provider now draw).1
  | approveAll => exact approveAll_isolated isolated
  | evictPool tenantId =>
    exact setPool_isolated isolated (clearMemoryCache_within (isolated.pools tenantId))

/-- In every state a run of safe requests reaches, a key dispatched for a tenant resolves to
a credential stored for the tenant, or for the tenant that has the key in the community
pool. -/
theorem credentials_isolated (platform : Platform) (requests : List WorkerRequest)
    (safe : Transition.Guarded (step platform) Safe (initial platform) requests) :
    ∀ world ∈ Transition.reached (step platform) (initial platform) requests,
      ∀ tenantId provider now draw keyId plaintext,
        (world.dispatch platform tenantId provider now draw).1 = some (keyId, plaintext) →
        world.Permitted tenantId keyId plaintext := by
  intro world reached tenantId provider now draw
  have isolated := Transition.invariant_of_guarded (I := Isolated platform)
    (fun _ request isolated safe => step_isolated isolated request safe) isolated_initial safe
    world reached
  exact (dispatch_isolated isolated tenantId provider now draw).2

end Requests

section Examples

attribute [local instance] asciiHost

/-- Pools named by their tenants, with the default breaker and limiter. -/
def edge : Platform where
  idString tenantId := "do:" ++ tenantId
  idString_ne tenantId same := by
    have longer := congrArg String.length same
    simp only [String.length_append] at longer
    have prefixed : "do:".length = 3 := rfl
    omega
  circuitBreaker := .create {}
  rateLimiter := .create {}

/-- A private key of `acme`'s. -/
def acmeKey : WorkerRequest :=
  .createKey "acme" none
    { provider := "groq", key := "gsk_acme", rpmLimit := 30, rpdLimit := 14400, priority := 0,
      poolType := none }
    { stamp := "t", bytes := [0, 0, 0], three := rfl, ciphertextB64 := "c", nonceB64 := "n" }

def posted (id : String) : PostedKeys :=
  .single { id, tenantId := none, provider := "groq", ciphertext := "c", nonce := "n" }

theorem credentials_isolated_acme :
    ((initial edge).step edge acmeKey |>.step edge (.postKeys "mallory" (posted "k2"))).Permitted
      "acme" "key_groq_t_000000" (.stored ⟨"acme", "gsk_acme"⟩) := by
  have safe : Transition.Guarded (step edge) Safe (initial edge)
      [acmeKey, .postKeys "mallory" (posted "k2")] := by
    refine ⟨fun row _ => Or.inr ?_, ?_, trivial⟩
    · rintro tenantId - id (held | held | ⟨stored, held, -⟩)
      · exact absurd held List.not_mem_nil
      · exact absurd held List.not_mem_nil
      · cases held
    · intro key mem row found
      obtain rfl := List.mem_singleton.mp mem
      have none : ((initial edge).step edge acmeKey).apiKeys.get? (trim "k2") = none := by decide
      rw [none] at found
      cases found
  exact credentials_isolated edge _ safe _ (Transition.foldl_mem_reached _ _ _)
    "acme" "groq" 0 0 _ _ (by decide)

/-- A tenant that posts the id of another's private key is served with it. -/
theorem private_key_served :
    ∃ world ∈ Transition.reached (step edge) (initial edge)
        [acmeKey, .postKeys "mallory" (posted "key_groq_t_000000")],
      (world.dispatch edge "mallory" "groq" 0 0).1 =
          some ("key_groq_t_000000", .stored ⟨"acme", "gsk_acme"⟩) ∧
        ¬ world.Permitted "mallory" "key_groq_t_000000" (.stored ⟨"acme", "gsk_acme"⟩) := by
  refine ⟨_, Transition.foldl_mem_reached _ _ _, by decide, ?_⟩
  rintro (same | ⟨row, found, community, -⟩)
  · exact absurd same (by decide)
  · have type : ((((initial edge).step edge acmeKey).step edge
        (.postKeys "mallory" (posted "key_groq_t_000000"))).apiKeys.get?
          (trim "key_groq_t_000000")).map ApiKeyRow.poolType = some .private := by decide
    have foundType := congrArg (Option.map ApiKeyRow.poolType) found
    rw [Option.map_some, community] at foundType
    cases type.symm.trans foundType

end Examples

end World

end KeyCollective
