import KeyCollective.Pool.Kept

/-!
# Own keys first

A pool prefers its tenant's keys to the community's by their priorities alone. A load
ranks an own key above every other; a key that is posted ranks as its request says.
-/

namespace KeyCollective.KeyPool

/-- An own key ranks above one of another owner. -/
def Outranks (owner : String → String) (tenantId : String) (own other : EncryptedKey) : Prop :=
  owner own.id = tenantId → owner other.id ≠ tenantId → keyPriority other < keyPriority own

def Ranked (owner : String → String) (tenantId : String) (keys : EncryptedKey → Prop) : Prop :=
  ∀ own other, keys own → keys other → Outranks owner tenantId own other

/-- The rows name the owners of their ids. -/
def OwnersOf (owner : String → String) (db : Option (List KeyRow)) : Prop :=
  ∀ rows, db = some rows → ∀ row ∈ rows, row.tenantId = owner row.id

/-- The key is a row as the tenant's pool loads it, whatever has been dispatched. -/
def LoadedAs (tenantId : String) (db : Option (List KeyRow)) (key : EncryptedKey) : Prop :=
  ∃ rows row, ∃ st : State, db = some rows ∧ row ∈ rows ∧ st.tenantId = tenantId ∧
    key = rowKey st row

variable (pool : KeyPool) (owner : String → String) (tenantId : String)

/-- The request is refused or leaves the pool bound to its tenant, the rows name the owners,
and each posted key that is an own key outranks every other owner's key that the pool keeps,
is posted with, or may load; one that is not is outranked by every own key. -/
structure RankedRequest (st : State) (request : RpcRequest) : Prop where
  tenant : ∀ bound, pool.bindTenant st.tenantId request.headerTenant = some bound →
    bound = tenantId
  owners : OwnersOf owner request.db
  posted : ∀ key ∈ request.route.posted, ∀ other,
    Keeps st other ∨ other ∈ request.route.posted ∨ LoadedAs tenantId request.db other →
      Outranks owner tenantId key other ∧ Outranks owner tenantId other key

def RankedEvent (st : State) : Event → Prop
  | .request request => pool.RankedRequest owner tenantId st request
  | .clearMemoryCache | .evict => True

/-- A key may be asked for by the provider. -/
def Serves [Host] (provider : String) (key : EncryptedKey) : Prop :=
  provider = "*" ∨ normalizeProvider key.provider = normalizeProvider provider

/-- No call is answered with another owner's key while the pool, loaded, holds an own key
that serves the provider and that nothing speaks against. -/
def OwnKeyFirst [Host] (st : State) : Prop :=
  ∀ provider now draw db id, OwnersOf owner db →
    (pool.getKey st provider now draw db).1 = .ok id → owner id ≠ tenantId →
    let loaded := (pool.ensureLoaded st db).2
    ∀ key, key ∈ loaded.keysMap.values ∨ key ∈ loaded.selector.keysMap.values →
      Serves provider key → pool.keySelector.isHealthy loaded.selector {} now key = true →
      owner key.id ≠ tenantId

variable {pool} {owner} {tenantId} {st : State} {db : Option (List KeyRow)}

/-! ## The keys of a loaded pool are registered -/

def Registered (st : State) : Prop :=
  ∀ id key, st.keysMap.get? id = some key → st.selector.keysMap.get? id = some key

/-- Only a restore that was cut short leaves keys that are not registered. -/
def RegisteredOnceLoaded (st : State) : Prop :=
  Registered st ∨ st.isLoaded = false ∧ st.storedKeys ≠ none

theorem registered_registerAll (st : State) : Registered (registerAll st) := by
  intro id key found
  rw [registerAll, KeySelector.setKeys, IndexedMap.get?_setAll_values]
  exact found

theorem registered_loadRows (registered : Registered st) (db : Option (List KeyRow)) :
    Registered (loadRows st db) := by
  unfold loadRows
  split
  · split
    · exact registered_registerAll _
    · exact registered
  · exact registered

theorem registered_ensureLoaded (registered : RegisteredOnceLoaded st)
    (db : Option (List KeyRow)) : RegisteredOnceLoaded (pool.ensureLoaded st db).2 := by
  unfold ensureLoaded
  cases loaded : st.isLoaded with
  | true => exact registered
  | false =>
    obtain ⟨bound, eq⟩ := pool.restoreTenant_eq st
    simp only [Bool.false_eq_true, ↓reduceIte, eq]
    cases found : st.storedKeys with
    | none =>
      have kept : Registered st := registered.resolve_right fun cut => cut.2 found
      have before : Registered { st with tenantId := bound, storedKeys := none } := kept
      exact Or.inl (registered_loadRows before db)
    | some stored =>
      obtain ⟨tenantId, keysMap, spec⟩ :=
        pool.restoreKeys_spec stored { st with tenantId := bound, storedKeys := some stored }
      simp only
      revert spec
      rcases pool.restoreKeys stored { st with tenantId := bound, storedKeys := some stored } with
        ⟨result, st'⟩
      rintro rfl
      cases result with
      | error e => exact Or.inr ⟨loaded, by simp⟩
      | ok => exact Or.inl (registered_loadRows (registered_registerAll _) db)

theorem registered_put (registered : RegisteredOnceLoaded st) (key : EncryptedKey) :
    RegisteredOnceLoaded { st with
      keysMap := st.keysMap.set key
      selector := KeySelector.addKey st.selector key } := by
  refine registered.imp_left fun registered id found => ?_
  simp only [KeySelector.addKey_keysMap, IndexedMap.get?_set]
  split
  · exact fun same => same
  · exact registered id found

theorem registered_closed (pool : KeyPool) (db : Option (List KeyRow)) :
    pool.Closed RegisteredOnceLoaded (fun _ => True) (fun _ => True) (fun _ => True) db where
  bind st target resource registered _ := by
    refine ⟨?_, fun _ _ => trivial⟩
    rcases pool.assertTenant_cases st target resource with ⟨bound, -, asserted⟩ | ⟨-, e, asserted⟩
    · rw [asserted]
      exact registered
    · rw [asserted]
      exact registered
  load st registered := ⟨registered_ensureLoaded registered db, fun _ _ => trivial⟩
  add st key registered _ := by
    refine ⟨?_, fun _ _ => trivial⟩
    unfold addKeySync
    split
    · rcases pool.assertTenant_cases st key.tenantId (some key.id) with
        ⟨bound, -, asserted⟩ | ⟨-, e, asserted⟩
      · have before : RegisteredOnceLoaded { st with tenantId := bound } := registered
        rw [asserted]
        exact registered_put before _
      · rw [asserted]
        exact registered
    · exact registered
  clear st _ := Or.inl fun id key found => by cases found
  replace st _ := Or.inl fun id key found => by cases found
  persist st registered loaded := Or.inl <|
    registered.resolve_right fun cut => absurd (loaded.symm.trans cut.1) (by simp)
  delete st id registered := by
    refine registered.imp_left fun registered other key => ?_
    simp only [KeySelector.removeKey, IndexedMap.get?_delete]
    split
    · exact fun absent => by cases absent
    · exact registered other key
  select st selector registered same := by
    refine registered.imp_left fun registered id key found => ?_
    rw [same]
    exact registered id key found
  other _ _ := trivial

/-! ## The ranks of the keys a pool keeps -/

/-- A key of the same id and priority as one of `keys`. -/
def Alike (keys : EncryptedKey → Prop) (key : EncryptedKey) : Prop :=
  ∃ same, keys same ∧ same.id = key.id ∧ same.priority = key.priority

theorem Alike.of {keys : EncryptedKey → Prop} {key : EncryptedKey} (held : keys key) :
    Alike keys key := ⟨key, held, rfl, rfl⟩

theorem Alike.retarget {keys : EncryptedKey → Prop} {key : EncryptedKey}
    (alike : Alike keys key) : Alike keys { key with tenantId := some tenantId } := alike

theorem ranked_alike {keys : EncryptedKey → Prop} (ranked : Ranked owner tenantId keys) :
    Ranked owner tenantId (Alike keys) := by
  rintro own other ⟨own', ownHeld, ownId, ownRank⟩ ⟨other', otherHeld, otherId, otherRank⟩ mine
    foreign
  have below := ranked own' other' ownHeld otherHeld (ownId ▸ mine) (otherId ▸ foreign)
  simp only [keyPriority, SelectableKey.priority] at below ⊢
  rwa [ownRank, otherRank] at below

theorem Ranked.mono {keys more : EncryptedKey → Prop} (ranked : Ranked owner tenantId more)
    (sub : ∀ key, keys key → more key) : Ranked owner tenantId keys :=
  fun own other ownHeld otherHeld => ranked own other (sub own ownHeld) (sub other otherHeld)

/-- A load ranks own keys at 10000 and the others at 7000 at most. -/
theorem ranked_loadedAs (owners : OwnersOf owner db) :
    Ranked owner tenantId (LoadedAs tenantId db) := by
  rintro own other ⟨rows, row, st, found, mem, tenant, rfl⟩
    ⟨rows', row', st', found', mem', tenant', rfl⟩ mine foreign
  have ownRow : row.tenantId = st.tenantId := (owners rows found row mem).trans
    (mine.trans tenant.symm)
  have otherRow : row'.tenantId ≠ st'.tenantId := fun same =>
    foreign ((owners rows' found' row' mem').symm.trans (same.trans tenant'))
  have high : rowPriority st row = 10000 := by
    unfold rowPriority
    simp only [ownRow, ↓reduceIte]
  have low : rowPriority st' row' ≤ 7000 := by
    unfold rowPriority
    simp only [otherRow, ↓reduceIte]
    split <;> split <;> omega
  change rowPriority st' row' < rowPriority st row
  omega

/-- A bound pool that keeps keys of one kind goes on to keep them, or to keep the rows it
has loaded. -/
theorem loading_closed (other : pool.idString ≠ tenantId) (kept rows : EncryptedKey → Prop)
    (loads : ∀ key, LoadedAs tenantId db key → rows key) :
    pool.Closed (fun st => Bound tenantId (Alike kept) st ∨ Bound tenantId (Alike rows) st)
      (fun _ => True) (fun _ => True) (fun key => kept key ∧ rows key) db := by
  have first := bound_closed (P := Alike kept) none other
    (fun _ => Alike.retarget) (fun _ none => by cases none)
  have second := bound_closed (P := Alike rows) db other
    (fun _ => Alike.retarget) fun loaded found row mem st tenant =>
      .of (loads _ ⟨loaded, row, st, found, mem, tenant, rfl⟩)
  constructor
  case bind =>
    rintro st target resource (holds | holds) named
    · exact (first.bind st target resource holds named).imp fun _ => Or.inl
    · exact (second.bind st target resource holds named).imp fun _ => Or.inr
  case load =>
    rintro st (holds | holds)
    · refine ⟨?_, fun _ _ => trivial⟩
      obtain ⟨st', restored, same | loaded⟩ :=
        holds.ensureLoaded_cases other (fun _ => Alike.retarget) db
      · exact Or.inl (same ▸ restored)
      · rw [loaded]
        rcases loadRows_keeps st' db with same | ⟨found, eq, tenant, fromRows⟩
        · rw [same]
          exact Or.inl ⟨restored.tenant, restored.keeps⟩
        · refine Or.inr ⟨tenant.trans restored.tenant, fun key held => ?_⟩
          obtain ⟨row, mem, rfl⟩ := fromRows key held
          exact .of (loads _ ⟨found, row, st', eq, mem, restored.tenant, rfl⟩)
    · exact (second.load st holds).imp fun _ => Or.inr
  case add =>
    rintro st key (holds | holds) ⟨keptKey, rowsKey⟩
    · exact (first.add st key holds (.retarget (.of keptKey))).imp fun _ => Or.inl
    · exact (second.add st key holds (.retarget (.of rowsKey))).imp fun _ => Or.inr
  case clear => exact fun st holds => holds.imp (first.clear st) (second.clear st)
  case replace => exact fun st holds => holds.imp (first.replace st) (second.replace st)
  case persist =>
    exact fun st holds loaded =>
      holds.imp (first.persist st · loaded) (second.persist st · loaded)
  case delete => exact fun st id holds => holds.imp (first.delete st id) (second.delete st id)
  case select =>
    exact fun st selector holds same =>
      holds.imp (first.select st selector · same) (second.select st selector · same)
  case other => exact fun _ _ => trivial

theorem ranked_either {kept rows : EncryptedKey → Prop} (ranked : Ranked owner tenantId kept)
    (rankedRows : Ranked owner tenantId rows)
    (either : Bound tenantId (Alike kept) st ∨ Bound tenantId (Alike rows) st) :
    Ranked owner tenantId (Keeps st) := by
  rcases either with bound | bound
  · exact (ranked_alike ranked).mono bound.keeps
  · exact (ranked_alike rankedRows).mono bound.keeps

theorem ranked_posted {posted kept : EncryptedKey → Prop} (ranked : Ranked owner tenantId kept)
    (fair : ∀ key, posted key → ∀ other, kept other ∨ posted other →
      Outranks owner tenantId key other ∧ Outranks owner tenantId other key) :
    Ranked owner tenantId fun key => kept key ∨ posted key := by
  rintro own other (ownKept | ownPosted) otherHeld
  · rcases otherHeld with otherKept | otherPosted
    · exact ranked own other ownKept otherKept
    · exact (fair other otherPosted own (Or.inl ownKept)).2
  · exact (fair own ownPosted other otherHeld).1

/-- The keys of a pool just bound to its tenant, once it has loaded itself. -/
theorem load_ranked (other : pool.idString ≠ tenantId) (tenant : st.tenantId = tenantId)
    (ranked : Ranked owner tenantId (Keeps st)) (owners : OwnersOf owner db) :
    Ranked owner tenantId (Keeps (pool.ensureLoaded st db).2) := by
  have closed := loading_closed other (Keeps st) (LoadedAs tenantId db) fun _ => id
  have held : Bound tenantId (Alike (Keeps st)) st := ⟨tenant, fun _ => .of⟩
  exact ranked_either ranked (ranked_loadedAs owners) (closed.load st (Or.inl held)).state

section Requests

variable [Host]

structure RankedPool (owner : String → String) (tenantId : String) (st : State) : Prop where
  ranked : Ranked owner tenantId (Keeps st)
  registered : RegisteredOnceLoaded st

omit [Host] in
theorem rankedPool_start (pool : KeyPool) (owner : String → String) (tenantId : String) :
    RankedPool owner tenantId pool.start :=
  ⟨fun own _ held => absurd held (not_keeps_start own), Or.inl fun _ _ found => by cases found⟩

theorem request_ranked (other : pool.idString ≠ tenantId) {request : RpcRequest}
    (ranked : Ranked owner tenantId (Keeps st))
    (guard : pool.RankedRequest owner tenantId st request) :
    Ranked owner tenantId (Keeps (pool.handleKeyPoolRpc st request).2) := by
  unfold handleKeyPoolRpc
  rcases pool.assertTenant_cases st request.headerTenant none with
    ⟨bound, binds, asserted⟩ | ⟨-, e, asserted⟩
  · obtain rfl := guard.tenant bound binds
    simp only [asserted]
    let posted : EncryptedKey → Prop := (· ∈ request.route.posted)
    have closed := loading_closed other (fun key => Keeps st key ∨ posted key)
      (fun key => LoadedAs bound request.db key ∨ posted key) fun _ => Or.inl
    have held : Bound bound (Alike fun key => Keeps st key ∨ posted key)
        { st with tenantId := bound } := ⟨rfl, fun _ kept => .of (Or.inl kept)⟩
    have sat := closed.serveRoute_sat st.tenantId request.route trivial
      (fun key mem => ⟨Or.inr mem, Or.inr mem⟩) request.now (Or.inl held)
    apply ranked_either _ _ sat.state
    · refine ranked_posted ranked fun key mem other held => guard.posted key mem other ?_
      exact held.imp_right Or.inl
    · refine ranked_posted (ranked_loadedAs guard.owners) fun key mem other held =>
        guard.posted key mem other ?_
      exact Or.inr held.symm
  · simp only [asserted]
    exact ranked

theorem after_ranked (other : pool.idString ≠ tenantId) (event : Event)
    (rankedPool : RankedPool owner tenantId st)
    (guard : pool.RankedEvent owner tenantId st event) :
    RankedPool owner tenantId (pool.after st event) := by
  cases event with
  | request request =>
    have closed := registered_closed pool request.db
    have sat := handleKeyPoolRpc_sat closed trivial trivial (fun _ _ => trivial)
      rankedPool.registered
    exact ⟨request_ranked other rankedPool.ranked guard, sat.state⟩
  | clearMemoryCache =>
    exact ⟨rankedPool.ranked.mono fun _ => keeps_clearMemoryCache,
      Or.inl fun _ _ found => by cases found⟩
  | evict =>
    exact ⟨rankedPool.ranked.mono fun _ => keeps_construct,
      Or.inl fun _ _ found => by cases found⟩

/-! ## The key that is given out -/

variable (pool) in
/-- A call chooses among the registered keys that serve its provider and that nothing speaks
against. -/
theorem mem_offered {selector : KeySelector.State EncryptedKey} {provider : String}
    (filled : isBlank provider = false) {now : Int} {key : EncryptedKey} :
    key ∈ pool.keySelector.offered selector provider {} now ↔
      key ∈ selector.keysMap.values ∧ Serves provider key ∧
        pool.keySelector.isHealthy selector {} now key = true := by
  have named : isFalsy (some provider) = false := by
    cases falsy : isFalsy (some provider) with
    | false => rfl
    | true =>
      obtain rfl : provider = "" := by simpa [isFalsy] using falsy
      cases filled
  simp only [KeySelector.offered, KeySelector.considered, Option.getD_none, reduceCtorEq, and_false,
    ↓reduceIte, List.mem_filter, KeySelector.getKeys, named, Bool.false_eq_true, Option.some.injEq,
    false_or, Option.getD_some]
  rw [← and_assoc]
  refine and_congr_left fun _ => ?_
  split
  · rename_i every
    exact ⟨fun held => ⟨held, Or.inl every⟩, And.left⟩
  · rename_i other
    rw [List.mem_filter, decide_eq_true_eq]
    exact and_congr_right fun _ => ⟨Or.inr, fun serves => serves.resolve_left other⟩

/-- A pool gives out a key its selector holds that serves the provider, and one no healthy key
of the provider ranks above. -/
theorem getKey_highest {st' : State} {provider id : String} {now : Int} {draw : Nat}
    (dispatched : pool.getKey st provider now draw db = (.ok id, st')) :
    ∃ selected, selected.id = id ∧
      selected ∈ (pool.ensureLoaded st db).2.selector.keysMap.values ∧
      Serves provider selected ∧
      ∀ key ∈ (pool.ensureLoaded st db).2.selector.keysMap.values, Serves provider key →
        pool.keySelector.isHealthy (pool.ensureLoaded st db).2.selector {} now key = true →
        keyPriority key ≤ keyPriority selected := by
  unfold getKey at dispatched
  split at dispatched
  · cases dispatched
  rename_i filled
  rw [Bool.not_eq_true] at filled
  revert dispatched
  rcases pool.ensureLoaded st db with ⟨result, loaded⟩
  cases result with
  | error e => intro failed; cases failed
  | ok =>
    simp only
    split
    · rename_i selected found
      rintro ⟨⟩
      obtain ⟨registered, serves, -⟩ :=
        (mem_offered pool filled).mp (pool.keySelector.selectKey_offered found)
      refine ⟨selected, rfl, registered, serves, ?_⟩
      intro key held serves healthy
      have offered := (mem_offered pool filled).mpr ⟨held, serves, healthy⟩
      rcases pool.keySelector.selectKey_cases loaded.selector provider {} now draw with
        ⟨-, none⟩ | ⟨nonempty, effectiveProvider, eq⟩
      · exact absurd found (none selected)
      · rw [eq] at found
        obtain rfl := Option.some.inj (Except.ok.inj found)
        exact selectPriority_highest pool.keySelector _ _ nonempty _ key offered
    · intro failed; cases failed
    · intro failed; cases failed

theorem ownKeyFirst_of_ranked (other : pool.idString ≠ tenantId) (tenant : st.tenantId = tenantId)
    (rankedPool : RankedPool owner tenantId st) : pool.OwnKeyFirst owner tenantId st := by
  intro provider now draw db id owners answered foreign loaded key held serves healthy mine
  have dispatched : pool.getKey st provider now draw db =
      (.ok id, (pool.getKey st provider now draw db).2) := Prod.ext answered rfl
  obtain ⟨selected, rfl, registered, -, highest⟩ := getKey_highest dispatched
  obtain ⟨ok, -, -⟩ := pool.getKey_registered dispatched
  have isLoaded : loaded.isLoaded = true := ensureLoaded_isLoaded (Prod.ext ok rfl)
  have within : Registered loaded := by
    have once : RegisteredOnceLoaded loaded :=
      registered_ensureLoaded rankedPool.registered db
    exact once.resolve_right fun cut => absurd (isLoaded.symm.trans cut.1) (by simp)
  have keyRegistered : key ∈ loaded.selector.keysMap.values := by
    rcases held with listed | held
    · exact (IndexedMap.get?_some (within key.id key (IndexedMap.get?_of_mem listed))).1
    · exact held
  have below := load_ranked other tenant rankedPool.ranked owners key selected
    (Or.inr (Or.inl keyRegistered)) (Or.inr (Or.inl registered)) mine foreign
  have above := highest key keyRegistered serves healthy
  omega

/-- In every run in which each request leaves the pool bound to its tenant and each posted
key ranks as its owner asks, no state gives out another owner's key while it holds an own key
that is healthy. -/
theorem own_key_first (pool : KeyPool) (owner : String → String) (tenantId : String)
    (other : pool.idString ≠ tenantId) (events : List Event)
    (guarded : Transition.Guarded pool.after (pool.RankedEvent owner tenantId) pool.start events) :
    ∀ st ∈ Transition.reached pool.after pool.start events, ∀ header,
      pool.bindTenant st.tenantId header = some tenantId →
      pool.OwnKeyFirst owner tenantId { st with tenantId } := by
  intro st reached header _
  have rankedPool := Transition.invariant_of_guarded (I := RankedPool owner tenantId)
    (fun _ event ranked guard => after_ranked other event ranked guard)
    (rankedPool_start pool owner tenantId) guarded st reached
  exact ownKeyFirst_of_ranked other rfl
    (⟨rankedPool.ranked, rankedPool.registered⟩ : RankedPool owner tenantId { st with tenantId })

end Requests

section Examples

attribute [local instance] asciiHost

/-- A key `bob` shares with the community while he owes it 2000 CU. -/
def bobRow : KeyRow where
  id := "key-bob"
  tenantId := "bob"
  provider := "groq"
  encryptedKeyB64 := "c"
  nonceB64 := "n"
  rpmLimit := 30
  rpdLimit := 14400
  status := "Healthy"
  ownerDebt := some 2000000

def acmeRow : KeyRow := { bobRow with id := "key-acme", tenantId := "acme", ownerDebt := none }

def rowOwner (id : String) : String := if id = "key-bob" then "bob" else "acme"

/-- `acme` lists its pool, which loads itself from the rows. -/
def listKeys (rows : List KeyRow) : RpcRequest where
  headerTenant := some "acme"
  route := .getKeys none
  now := 0
  db := some rows

theorem own_key_first_acme :
    acmePool.OwnKeyFirst rowOwner "acme"
      { acmePool.after acmePool.start (.request (listKeys [acmeRow, bobRow])) with
        tenantId := "acme" } := by
  have guard : acmePool.RankedRequest rowOwner "acme" acmePool.start
      (listKeys [acmeRow, bobRow]) := by
    refine ⟨fun bound binds => ?_, ?_, fun key posted => absurd posted List.not_mem_nil⟩
    · exact (Option.some.inj binds).symm
    · rintro rows ⟨⟩ row mem
      rcases List.mem_cons.mp mem with rfl | mem
      · decide
      · rw [List.mem_singleton.mp mem]
        decide
  exact own_key_first acmePool rowOwner "acme" (by decide)
    [.request (listKeys [acmeRow, bobRow])] ⟨guard, trivial⟩ _
    (Transition.foldl_mem_reached _ _ _) (some "acme") (by decide)

/-- The key the dashboard's create-key route posts for `acme` when the body names no
priority. -/
def createdKey : EncryptedKey where
  id := "key-acme"
  tenantId := some "acme"
  provider := "groq"
  ciphertext := "c"
  nonce := "n"
  priority := some 0
  rpmLimit := some 30
  rpdLimit := some 14400
  status := some "Healthy"

theorem community_key_preferred :
    ¬acmePool.OwnKeyFirst rowOwner "acme"
      ([.request (listKeys [bobRow]),
        .request
          { headerTenant := some "acme", route := .postKeys (.single createdKey), now := 0,
            db := none }].foldl acmePool.after acmePool.start) := by
  intro first
  have own := first "groq" 0 0 none "key-bob" (fun _ none => by cases none) (by decide) (by decide)
    createdKey (Or.inr (by decide)) (Or.inr rfl) (by decide)
  exact own (by decide)

end Examples

end KeyCollective.KeyPool
