import KeyCollective.Lib.IndexedMap

/-!
# Users and tokens

The `users` and `auth_tokens` tables, with the constraints their writes can fail on. A
token is stored as its hash.
-/

namespace KeyCollective

/-- What the runtime supplies at the edge. -/
class Edge where
  /-- The SHA-256 digest in lower-case hexadecimal. -/
  hashToken : String → String
  /-- `none` is the `URIError`. -/
  decodeURIComponent : String → Option String

/-- A digest that is readable. -/
@[reducible] def plainEdge : Edge where
  hashToken token := "sha256:" ++ token
  decodeURIComponent := some

structure UserRow where
  id : String
  email : Option String
  tier : String
  role : Option String
  sybilScore : Int
deriving DecidableEq, Repr

abbrev Users := IndexedMap UserRow.id

/-- Another user has the email, which is unique. -/
def Users.emailTaken (users : Users) (row : UserRow) : Bool :=
  users.values.any fun other => other.id ≠ row.id ∧ row.email.isSome ∧ other.email = row.email

/-- `INSERT … ON CONFLICT(id) DO UPDATE SET email = …, tier = COALESCE(users.tier, …)`. The
tier is never null, so a user that exists keeps it. -/
def Users.upsertSession (users : Users) (row : UserRow) : Option Users :=
  if users.emailTaken row then none
  else match users.get? row.id with
    | some user => some (users.set { user with email := row.email })
    | none => some (users.set row)

/-- `UPDATE users SET tier = ?, role = ?`, or an insert where that changed no row. An error is
ignored. -/
def Users.overrideTier (users : Users) (targetTenantId newTier : String) : Users :=
  let targetRole := if newTier = "admin" then "admin" else "user"
  match users.get? targetTenantId with
  | some user => users.set { user with tier := newTier, role := some targetRole }
  | none =>
    let row : UserRow :=
      { id := targetTenantId
        email := some (if '@' ∈ targetTenantId.toList then targetTenantId
          else targetTenantId ++ "@keycollective.local")
        tier := newTier
        role := some targetRole
        sybilScore := if newTier = "admin" then 100 else 90 }
    if users.emailTaken row then users else users.set row

structure AuthTokenRecord where
  id : String
  hashSha256 : String
  tenantId : String
  budgetMicrodollars : Int
  spentMicrodollars : Int
  allowedProviders : List String
  rpmLimit : Int
  expiresAt : Option Int
deriving DecidableEq, Repr

abbrev AuthTokens := IndexedMap AuthTokenRecord.id

namespace AuthTokens

/-- `SELECT * FROM auth_tokens WHERE hash_sha256 = ? LIMIT 1`. The digest is in lower case,
so the comparison with the lower-cased column asks nothing more. -/
def findByToken [Edge] (tokens : AuthTokens) (plainToken : String) : Option AuthTokenRecord :=
  if plainToken = "" then none
  else tokens.values.find? fun record => record.hashSha256 = Edge.hashToken plainToken

/-- Another record has the id or the hash, which are unique. -/
def taken (tokens : AuthTokens) (record : AuthTokenRecord) : Bool :=
  tokens.has record.id || tokens.values.any fun other => other.hashSha256 = record.hashSha256

def insert (tokens : AuthTokens) (record : AuthTokenRecord) : Option AuthTokens :=
  if tokens.taken record then none else some (tokens.set record)

variable [Edge] {tokens inserted : AuthTokens} {record : AuthTokenRecord} {plainToken : String}

/-- A token that was stored under no hash is found as the record that was inserted for it. -/
theorem findByToken_insert (named : plainToken ≠ "")
    (hash : record.hashSha256 = Edge.hashToken plainToken)
    (done : tokens.insert record = some inserted) :
    inserted.findByToken plainToken = some record := by
  unfold insert at done
  split_ifs at done with clashes
  obtain ⟨-, unused⟩ := Bool.or_eq_false_iff.mp (Bool.eq_false_iff.mpr clashes)
  rw [← Option.some.inj done, findByToken, if_neg named]
  have present : record ∈ (tokens.set record).values :=
    (IndexedMap.get?_some ((IndexedMap.get?_set tokens record record.id).trans (if_pos rfl))).1
  cases found : (tokens.set record).values.find? fun other =>
      other.hashSha256 = Edge.hashToken plainToken with
  | none =>
    have differs := List.find?_eq_none.mp found record present
    exact absurd (decide_eq_true hash) differs
  | some other =>
    have same := List.find?_some found
    rw [decide_eq_true_eq] at same
    rcases IndexedMap.mem_set (List.mem_of_find?_eq_some found) with rfl | earlier
    · rfl
    · have clash : tokens.values.any (fun other => other.hashSha256 = record.hashSha256) = true :=
        List.any_eq_true.mpr ⟨other, earlier, decide_eq_true (same.trans hash.symm)⟩
      rw [unused] at clash
      cases clash

end AuthTokens

/-- The database of the worker. -/
structure Database where
  users : Users
  authTokens : AuthTokens

end KeyCollective
