import KeyCollective.Dashboard.Handler
import KeyCollective.Date

/-!
# The administrator's gate

A request to the admin host presents a token in one of the three places of a dashboard
request. A hook decides alone; without one the token may be a configured one, or the hash
of a stored token, or, last, the id of a user.
-/

namespace KeyCollective

/-! ## Comparison in constant time -/

/-- `timingSafeEqual`. -/
def timingSafeEqual (a b : List UInt8) : Bool :=
  if a.length ≠ b.length then false
  else (a.zip b).foldl (fun diff bytes => diff ||| (bytes.1 ^^^ bytes.2)) 0 = 0

/-- The UTF-8 bytes of a text. -/
def encodeText (s : String) : List UInt8 := s.toByteArray.data.toList

def timingSafeEqualStrings (a b : String) : Bool := timingSafeEqual (encodeText a) (encodeText b)

theorem or_eq_zero (a b : UInt8) : a ||| b = 0 ↔ a = 0 ∧ b = 0 := by
  simp only [← UInt8.toBitVec_inj, UInt8.toBitVec_or]
  exact BitVec.or_eq_zero_iff

theorem xor_eq_zero (a b : UInt8) : a ^^^ b = 0 ↔ a = b := by
  simp only [← UInt8.toBitVec_inj, UInt8.toBitVec_xor]
  exact BitVec.xor_eq_zero_iff

/-- No difference is lost on the way. -/
theorem difference_eq_zero (a b : List UInt8) (diff : UInt8) (same : a.length = b.length) :
    (a.zip b).foldl (fun diff bytes => diff ||| (bytes.1 ^^^ bytes.2)) diff = 0 ↔
      diff = 0 ∧ a = b := by
  induction a generalizing b diff with
  | nil =>
    obtain rfl := List.length_eq_zero_iff.mp same.symm
    simp
  | cons x xs ih =>
    cases b with
    | nil => cases same
    | cons y ys =>
      rw [List.zip_cons_cons, List.foldl_cons, ih ys _ (Nat.succ.inj same), or_eq_zero,
        xor_eq_zero, List.cons.injEq, and_assoc]

theorem timingSafeEqual_iff (a b : List UInt8) : timingSafeEqual a b = true ↔ a = b := by
  unfold timingSafeEqual
  by_cases same : a.length = b.length
  · simp [same, difference_eq_zero a b 0 same]
  · simp only [ne_eq, same, not_false_eq_true, if_true, Bool.false_eq_true, false_iff]
    exact fun equal => same (congrArg List.length equal)

theorem timingSafeEqualStrings_iff (a b : String) : timingSafeEqualStrings a b = true ↔ a = b := by
  unfold timingSafeEqualStrings encodeText
  rw [timingSafeEqual_iff, Array.toList_inj, ← ByteArray.ext_iff, String.toByteArray_inj]

/-! ## The gate -/

structure AdminTokenRow where
  id : String
  hashSha256 : String
  tenantId : String
  expiresAt : Option String
deriving DecidableEq, Repr

structure AdminUserRow where
  id : String
  email : Option String
  tier : Option String
  role : Option String
  isQuarantined : Option Int
deriving DecidableEq, Repr

/-- The two tables, none where a query on it fails. The hash of a token is unique. -/
structure AdminDb where
  authTokens : Option (IndexedMap AdminTokenRow.hashSha256)
  users : Option (IndexedMap AdminUserRow.id)

/-- What the verifier reads of the worker's options and bindings. -/
structure AdminGate where
  /-- The hook, none when it throws. -/
  verifyAdmin : Option (String → Option Bool) := none
  adminTokens : List String := []
  adminToken : Option String := none
  adminEmails : Option String := none
  db : Option AdminDb := none

namespace AdminGate

variable (gate : AdminGate)

section

variable [DateParser]

/-- `Date.now() >= new Date(expires_at).getTime()`, which no invalid date satisfies. -/
def expired (row : AdminTokenRow) (now : Time) : Bool :=
  ((row.expiresAt.filter (· ≠ "")).bind parseDate).any fun expiresAt => expiresAt.ms ≤ now.ms

variable [Host]

def listedEmail (user : AdminUserRow) : Bool :=
  match user.email.filter (· ≠ ""), gate.adminEmails.filter (· ≠ "") with
  | some email, some adminEmails =>
    ((adminEmails.splitOn ",").map fun e => Host.toLowerCase (trim e)).contains
      (Host.toLowerCase email)
  | _, _ => false

/-- What a user's row decides, if anything. -/
def userVerdict (user : AdminUserRow) : Option Bool :=
  if user.isQuarantined = some 1 then some false
  else if user.tier = some "admin" ∨ user.role = some "admin" then some true
  else if gate.listedEmail user then some true
  else none

/-- The lookup of a user by id. A query that fails decides nothing. -/
def lookUpUser (db : AdminDb) (id : String) : Option Bool :=
  (db.users.bind (·.get? id)).bind gate.userVerdict

def tokenVerdict (db : AdminDb) (now : Time) (row : AdminTokenRow) : Option Bool :=
  if expired row now then some false
  else if row.tenantId = "admin" then some true
  else gate.lookUpUser db row.tenantId

/-- The token is one of the configured ones. -/
def configured (rawToken : String) : Bool :=
  (gate.adminTokens.any fun adminTok => timingSafeEqualStrings rawToken adminTok) ||
    (gate.adminToken.filter fun adminToken => !isBlank adminToken).any fun adminToken =>
      timingSafeEqualStrings rawToken (trim adminToken)

variable [Edge]

def verifyStored (db : AdminDb) (rawToken : String) (now : Time) : Bool :=
  match db.authTokens with
  | none => false
  | some tokens =>
    match (tokens.get? (Edge.hashToken rawToken)).bind (gate.tokenVerdict db now) with
    | some verdict => verdict
    | none =>
      -- "Check users table directly": the token is taken for a user's id.
      (gate.lookUpUser db rawToken).getD false

def verifyToken (rawToken : String) (now : Time) : Bool :=
  match gate.verifyAdmin with
  | some hook => (hook rawToken).getD false
  | none =>
    gate.configured rawToken || gate.db.any fun db => gate.verifyStored db rawToken now

/-- `verifyAdminRequest`. An error is a cookie that does not decode, which is not caught. -/
def verifyAdminRequest (request : DashboardRequest) (now : Time) : Except Unit Bool :=
  request.presented.map fun rawToken => rawToken.any fun rawToken => gate.verifyToken rawToken now

/-! ## What an acceptance rests on -/

/-- A user that is an administrator and not in quarantine. -/
structure Administrator (user : AdminUserRow) : Prop where
  free : user.isQuarantined ≠ some 1
  admin : user.tier = some "admin" ∨ user.role = some "admin" ∨ gate.listedEmail user = true

/-- The tenant is the administrator, or the table has it as one. -/
def AdminTenant (db : AdminDb) (tenantId : String) : Prop :=
  tenantId = "admin" ∨
    ∃ user, db.users.bind (·.get? tenantId) = some user ∧ gate.Administrator user

/-- The stored token is live and an administrator's. -/
structure Live (db : AdminDb) (now : Time) (row : AdminTokenRow) : Prop where
  unexpired : expired row now = false
  owner : gate.AdminTenant db row.tenantId

/-- What the token has to be for a request to be accepted. -/
def Justified (rawToken : String) (now : Time) : Prop :=
  (rawToken ∈ gate.adminTokens ∨ ∃ adminToken, gate.adminToken = some adminToken ∧
      isBlank adminToken = false ∧ rawToken = trim adminToken) ∨
    (∃ hook, gate.verifyAdmin = some hook ∧ hook rawToken = some true) ∨
    ∃ db tokens row, gate.db = some db ∧ db.authTokens = some tokens ∧ row ∈ tokens.values ∧
      row.hashSha256 = Edge.hashToken rawToken ∧ gate.Live db now row

/-- A step before the last one decides: the hook, a configured token, a database that is
missing, or the token's own row. -/
def Decided (rawToken : String) (now : Time) : Prop :=
  gate.verifyAdmin.isSome = true ∨ gate.configured rawToken = true ∨
    ∀ db tokens, gate.db = some db → db.authTokens = some tokens →
      ((tokens.get? (Edge.hashToken rawToken)).bind (gate.tokenVerdict db now)).isSome = true

/-- The token is the id of an administrator. -/
def NamesAdministrator (rawToken : String) : Prop :=
  ∃ db user, gate.db = some db ∧ db.users.bind (·.get? rawToken) = some user ∧
    gate.Administrator user

end

variable {gate}

theorem configured_iff (rawToken : String) :
    gate.configured rawToken = true ↔
      rawToken ∈ gate.adminTokens ∨ ∃ adminToken, gate.adminToken = some adminToken ∧
        isBlank adminToken = false ∧ rawToken = trim adminToken := by
  unfold configured
  cases gate.adminToken with
  | none => simp [timingSafeEqualStrings_iff]
  | some adminToken =>
    cases blank : isBlank adminToken with
    | true => simp [timingSafeEqualStrings_iff, Option.filter_some, blank]
    | false => simp [timingSafeEqualStrings_iff, Option.filter_some, blank]

section

variable [DateParser] [Host]

omit [DateParser] in
theorem userVerdict_true_iff (user : AdminUserRow) :
    gate.userVerdict user = some true ↔ gate.Administrator user := by
  unfold userVerdict
  constructor
  · intro accepted
    split_ifs at accepted with quarantined direct listed
    · cases accepted
    · exact ⟨quarantined, direct.imp_right Or.inl⟩
    · exact ⟨quarantined, Or.inr (Or.inr listed)⟩
  · rintro ⟨free, admin⟩
    rw [if_neg free]
    split_ifs with direct listed
    · rfl
    · rfl
    · rcases admin with tier | role | email
      · exact absurd (Or.inl tier) direct
      · exact absurd (Or.inr role) direct
      · exact absurd email listed

omit [DateParser] in
theorem lookUpUser_true_iff (db : AdminDb) (id : String) :
    gate.lookUpUser db id = some true ↔
      ∃ user, db.users.bind (·.get? id) = some user ∧ gate.Administrator user := by
  unfold lookUpUser
  rw [Option.bind_eq_some_iff]
  simp only [userVerdict_true_iff]

/-- A stored token that is accepted is live. -/
theorem tokenVerdict_true_iff (db : AdminDb) (now : Time) (row : AdminTokenRow) :
    gate.tokenVerdict db now row = some true ↔ gate.Live db now row := by
  unfold tokenVerdict
  cases ended : expired row now with
  | true =>
    simp only [if_true, Option.some.injEq, Bool.false_eq_true, false_iff]
    rintro ⟨unexpired, -⟩
    rw [ended] at unexpired
    cases unexpired
  | false =>
    rw [if_neg Bool.false_ne_true]
    by_cases admin : row.tenantId = "admin"
    · rw [if_pos admin]
      exact ⟨fun _ => ⟨ended, Or.inl admin⟩, fun _ => rfl⟩
    · rw [if_neg admin, lookUpUser_true_iff]
      constructor
      · exact fun owner => ⟨ended, Or.inr owner⟩
      · rintro ⟨-, owner⟩
        exact owner.resolve_left admin

variable [Edge]

/-- The stored rows accept a live token, or the id of an administrator where the token's own
row decides nothing. -/
theorem verifyStored_iff {db : AdminDb} {tokens : IndexedMap AdminTokenRow.hashSha256}
    (read : db.authTokens = some tokens) (rawToken : String) (now : Time) :
    gate.verifyStored db rawToken now = true ↔
      (∃ row ∈ tokens.values, row.hashSha256 = Edge.hashToken rawToken ∧ gate.Live db now row) ∨
        (tokens.get? (Edge.hashToken rawToken)).bind (gate.tokenVerdict db now) = none ∧
          gate.lookUpUser db rawToken = some true := by
  have live : (tokens.get? (Edge.hashToken rawToken)).bind (gate.tokenVerdict db now) = some true ↔
      ∃ row ∈ tokens.values, row.hashSha256 = Edge.hashToken rawToken ∧ gate.Live db now row := by
    rw [Option.bind_eq_some_iff]
    constructor
    · rintro ⟨row, found, accepted⟩
      obtain ⟨mem, hash⟩ := IndexedMap.get?_some found
      exact ⟨row, mem, hash, (tokenVerdict_true_iff db now row).mp accepted⟩
    · rintro ⟨row, mem, hash, alive⟩
      exact ⟨row, hash ▸ IndexedMap.get?_of_mem mem, (tokenVerdict_true_iff db now row).mpr alive⟩
  rw [← live]
  unfold verifyStored
  simp only [read]
  cases (tokens.get? (Edge.hashToken rawToken)).bind (gate.tokenVerdict db now) with
  | some verdict => simp
  | none => cases gate.lookUpUser db rawToken <;> simp

/-- An accepted token is what it has to be, unless it is only an administrator's id. -/
theorem verifyToken_justified_iff (rawToken : String) (now : Time) :
    (gate.verifyToken rawToken now = true → gate.Justified rawToken now) ↔
      (gate.NamesAdministrator rawToken → gate.Decided rawToken now) := by
  unfold verifyToken
  cases hooked : gate.verifyAdmin with
  | some hook =>
    constructor
    · exact fun _ _ => Or.inl (by rw [hooked]; rfl)
    · intro _ accepted
      refine Or.inr (Or.inl ⟨hook, hooked, ?_⟩)
      cases answer : hook rawToken with
      | none => simp [answer] at accepted
      | some verdict => simpa [answer] using accepted
  | none =>
    simp only [Bool.or_eq_true, Option.any_eq_true]
    constructor
    · rintro justified ⟨db, user, bound, found, admin⟩
      by_contra undecided
      simp only [Decided, hooked, Option.isSome_none, Bool.false_eq_true, false_or, not_or,
        not_forall] at undecided
      obtain ⟨unconfigured, db', tokens, bound', read, silent⟩ := undecided
      obtain rfl := Option.some.inj (bound.symm.trans bound')
      rw [Option.not_isSome_iff_eq_none] at silent
      have named : gate.lookUpUser db rawToken = some true :=
        (lookUpUser_true_iff db rawToken).mpr ⟨user, found, admin⟩
      have accepted := (verifyStored_iff read rawToken now).mpr (Or.inr ⟨silent, named⟩)
      rcases justified (Or.inr ⟨db, bound, accepted⟩) with listed | ⟨hook, given, -⟩ | stored
      · exact unconfigured ((configured_iff rawToken).mpr listed)
      · rw [hooked] at given
        cases given
      · obtain ⟨db', tokens', row, bound'', read', mem, hash, alive⟩ := stored
        obtain rfl := Option.some.inj (bound.symm.trans bound'')
        obtain rfl := Option.some.inj (read.symm.trans read')
        rw [← hash, IndexedMap.get?_of_mem mem, Option.bind_some,
          (tokenVerdict_true_iff db now row).mpr alive] at silent
        cases silent
    · rintro decided (listed | ⟨db, bound, accepted⟩)
      · exact Or.inl ((configured_iff rawToken).mp listed)
      · cases read : db.authTokens with
        | none => simp [verifyStored, read] at accepted
        | some tokens =>
          rcases (verifyStored_iff read rawToken now).mp accepted with ⟨row, mem, hash, alive⟩ | named
          · exact Or.inr (Or.inr ⟨db, tokens, row, bound, read, mem, hash, alive⟩)
          · obtain ⟨user, found, admin⟩ := (lookUpUser_true_iff db rawToken).mp named.2
            rcases decided ⟨db, user, bound, found, admin⟩ with hook | listed | earlier
            · rw [hooked] at hook
              cases hook
            · exact Or.inl ((configured_iff rawToken).mp listed)
            · have spoken := earlier db tokens bound read
              rw [named.1] at spoken
              cases spoken

/-- **Verification of an administrator** accepts only a token that is configured, taken by
the hook, or stored, live and an administrator's, exactly when a token that is the id of an
administrator has met its decision before the users are looked up. -/
theorem verifyAdminRequest_justified_iff (gate : AdminGate) (request : DashboardRequest)
    (now : Time) :
    (gate.verifyAdminRequest request now = .ok true →
      ∃ rawToken, request.presented = .ok (some rawToken) ∧ gate.Justified rawToken now) ↔
    ∀ rawToken, request.presented = .ok (some rawToken) → gate.NamesAdministrator rawToken →
      gate.Decided rawToken now := by
  unfold verifyAdminRequest
  cases read : request.presented with
  | error e => simp [Except.map]
  | ok presented =>
    cases presented with
    | none => simp [Except.map]
    | some rawToken =>
      simpa [Except.map] using gate.verifyToken_justified_iff rawToken now

/-- `revokeToken`, of the token's own row. -/
def revoke (row : AdminTokenRow) (now : Time) : AdminTokenRow :=
  { row with expiresAt := some now.toISOString }

omit [Host] [Edge] in
/-- A revoked token has expired from then on. -/
theorem expired_revoke (row : AdminTokenRow) {revoked now : Time} (later : revoked.ms ≤ now.ms) :
    expired (revoke row revoked) now = true := by
  have written : revoked.toISOString ≠ "" := by
    intro none
    have long := revoked.length_isoChars
    rw [Time.toISOString] at none
    have nil : revoked.isoChars = [] := by simpa using congrArg String.toList none
    rw [nil] at long
    exact absurd long (by decide)
  simp only [expired, revoke, Option.filter_some, written, ne_eq, not_false_eq_true, decide_true,
    if_true, Option.bind_some, parseDate_toISOString, Option.any_some, later]

/-- A revoked token is not accepted for itself, nor for the id of a user. -/
theorem verifyStored_revoked {db : AdminDb} {tokens : IndexedMap AdminTokenRow.hashSha256}
    (read : db.authTokens = some tokens) {row : AdminTokenRow} {rawToken : String}
    {revoked now : Time} (later : revoked.ms ≤ now.ms)
    (stored : tokens.get? (Edge.hashToken rawToken) = some (revoke row revoked)) :
    gate.verifyStored db rawToken now = false := by
  unfold verifyStored
  simp only [read, stored, Option.bind_some, tokenVerdict, expired_revoke row later, if_true]

end

section

attribute [local instance] asciiHost plainEdge

/-- No text is a date in another form. -/
@[reducible] def isoDates : DateParser := ⟨fun _ => none⟩

attribute [local instance] isoDates

/-- A database without tokens, and an administrator in it. -/
def gateOfAda : AdminGate where
  db := some
    { authTokens := some IndexedMap.empty
      users := some (IndexedMap.empty.set
        { id := "usr_gh_1", email := none, tier := some "max", role := some "admin"
          isQuarantined := some 0 }) }

/-- A request with the administrator's id for a token. -/
def requestOfAnyone : DashboardRequest where
  method := "GET"
  pathname := "/api/admin/surveillance"
  authorization := some "Bearer usr_gh_1"

/-- 1 January 1970. -/
def epoch : Time := ⟨0, by decide⟩

/-- The id alone is enough. -/
theorem user_id_accepted :
    gateOfAda.verifyAdminRequest requestOfAnyone epoch = .ok true ∧
      ¬∃ rawToken, requestOfAnyone.presented = .ok (some rawToken) ∧
        gateOfAda.Justified rawToken epoch := by
  refine ⟨by decide +kernel, ?_⟩
  rintro ⟨rawToken, -, (listed | ⟨adminToken, given, -⟩) | ⟨hook, given, -⟩ | stored⟩
  · cases listed
  · cases given
  · cases given
  · obtain ⟨db, tokens, row, bound, read, mem, -⟩ := stored
    obtain rfl := Option.some.inj bound
    obtain rfl := Option.some.inj read
    cases mem

end

end AdminGate

end KeyCollective
