import KeyCollective.Storage.TokenVault
import KeyCollective.Worker.Gateway

/-!
# Holders of tokens

The gateway reads the table that the calls on tokens write. It serves the holder of a token the
tenant that the token was created for, and nothing from the statement on that revokes it.
-/

namespace KeyCollective.TokenVault

open Aes AuthMiddleware Gateway
open Interleaving (Event)

variable {κ : Type}

/-- The table, as authentication reads it. -/
def Vault.authTokens (vault : Vault κ) : AuthTokens where
  values := vault.tokens.values.map StoredToken.toAuthTokenRecord
  distinct := by
    rw [List.map_map]
    exact vault.tokens.distinct

/-- The request, when it meets this vault. -/
def Vault.visited (vault : Vault κ) (visit : EdgeVisit) : EdgeVisit :=
  { visit with tokens := vault.authTokens }

section Edge

variable [Edge] [Host] {vault : Vault κ} {visit : EdgeVisit}

omit [Host] in
theorem findByToken_authTokens (vault : Vault κ) (plainToken : String) :
    vault.authTokens.findByToken plainToken =
      (findByToken vault.tokens plainToken).map StoredToken.toAuthTokenRecord := by
  unfold AuthTokens.findByToken findByToken
  split_ifs
  · rfl
  · exact List.find?_map

omit [Host] in
theorem found_row {rawToken : String} {record : AuthTokenRecord}
    (found : (vault.visited visit).tokens.findByToken rawToken = some record) :
    ∃ row, findByToken vault.tokens rawToken = some row ∧ row.toAuthTokenRecord = record := by
  have found : vault.authTokens.findByToken rawToken = some record := found
  rw [findByToken_authTokens] at found
  exact Option.map_eq_some_iff.mp found

/-- What the middleware checks of a record the vault checks of its row. -/
theorem validateToken_of_checkRecord {options : AuthMiddlewareOptions} {rawToken : String}
    {row : StoredToken} (found : findByToken vault.tokens rawToken = some row)
    (valid : checkRecord options vault.now row.toAuthTokenRecord = .ok ()) :
    validateToken vault rawToken options.requiredProvider = .valid row := by
  simp only [checkRecord] at valid
  split at valid
  case isTrue => cases valid
  case isFalse unexpired =>
    split at valid
    case h_1 => cases valid
    case h_2 allowed =>
      split at valid
      case isTrue => cases valid
      case isFalse affordable =>
        have permitted : ¬(options.requiredProvider.filter (· ≠ "")).any (fun provider =>
            row.allowedProviders ≠ [] ∧ ¬row.allowedProviders.any fun allowed =>
              trim (Host.toLowerCase allowed) = trim (Host.toLowerCase provider)) = true := by
          rw [Bool.not_eq_true, Option.any_eq_false]
          intro provider asked
          exact Bool.eq_false_iff.mpr (Option.filter_eq_none_iff.mp allowed provider asked)
        simp only [validateToken, found]
        rw [if_neg unexpired, if_neg permitted, if_neg affordable]

/-- Only the bearer of a token for a tenant is served it. -/
theorem bears_of_served [DateParser] {served : Served} {tenantId : String}
    (required : visit.env.requireAuth ≠ some false) (fetched : visit.served = .ok served)
    (tenant : served.tenant = some tenantId) : visit.Bears tenantId := by
  obtain ⟨rfl, -⟩ := visit.fetch_tenant fetched tenant
  obtain ⟨-, -, -, ⟨-, bears⟩, -⟩ := (visit.tenant_dispatchRoute required tenantId).mp tenant
  exact bears

/-! ## Whom a token serves -/

variable {calls : List (Operation κ)} {rawToken : String}

/-- What a token is served: a tenant that some call created it for, where the vault finds it
valid, or as the master key or a demo token. -/
inductive Entitles (calls : List (Operation κ)) (vault : Vault κ) (visit : EdgeVisit)
    (rawToken : String) : String → Prop where
  | created {params : CreateAuthTokenParams κ} {row : StoredToken}
      (asked : .createToken params ∈ calls)
      (same : Edge.hashToken rawToken = Edge.hashToken (trim params.token))
      (valid : validateToken vault rawToken visit.options.requiredProvider = .valid row) :
      Entitles calls vault visit rawToken (trim params.tenantId)
  | master (key : (visit.options.masterKey <|> visit.env.kcMasterKey) = some rawToken) :
      Entitles calls vault visit rawToken "admin"
  | demo (named : startsWith rawToken "kc_demo_" = true) :
      Entitles calls vault visit rawToken "demo"

theorem Bears.entitles {aes : AesGcm κ} {masterKey : KeyInput κ} {tenantId : String}
    (kept : Kept aes masterKey calls vault) (on_time : visit.now.ms = vault.now)
    (bears : (vault.visited visit).Bears tenantId) :
    ∃ rawToken, extractBearerToken visit.request.authorization = .ok rawToken ∧
      Entitles calls vault visit rawToken tenantId := by
  cases bears with
  | @stored rawToken record admitted presented found valid admits =>
    obtain ⟨row, leads, rfl⟩ := found_row found
    obtain ⟨mem, hash⟩ := findByToken_some leads
    obtain ⟨params, created, holds⟩ := kept.rows row mem
    have valid : checkRecord visit.options visit.now.ms row.toAuthTokenRecord = .ok () := valid
    rw [on_time] at valid
    refine ⟨rawToken, presented, ?_⟩
    rw [holds.tenant]
    exact .created created (hash.symm.trans holds.hash) (validateToken_of_checkRecord leads valid)
  | @master rawToken presented unknown key =>
    exact ⟨rawToken, presented, .master (Option.filter_eq_some_iff.mp key).1⟩
  | @demo rawToken consume presented unknown other pool named allowed =>
    exact ⟨rawToken, presented, .demo named⟩

variable {aes : AesGcm κ} {masterKey : KeyInput κ}

/-- A token that is neither the master key nor a demo token. -/
structure Ordinary (visit : EdgeVisit) (rawToken : String) : Prop where
  key : (visit.options.masterKey <|> visit.env.kcMasterKey) ≠ some rawToken
  demo : startsWith rawToken "kc_demo_" = false

theorem Expired.bears_not {revoked : StoredToken} {tenantId : String}
    (expired : Expired vault revoked) (late : vault.now ≤ visit.now.ms)
    (presented : extractBearerToken visit.request.authorization = .ok rawToken)
    (hash : Edge.hashToken rawToken = revoked.hashSha256) (ordinary : Ordinary visit rawToken) :
    ¬(vault.visited visit).Bears tenantId := by
  intro bears
  cases bears with
  | @stored shown record admitted presents found valid admits =>
    obtain rfl := Except.ok.inj (presented.symm.trans presents)
    obtain ⟨row, leads, rfl⟩ := found_row found
    obtain ⟨mem, same⟩ := findByToken_some leads
    obtain ⟨expiresAt, expires, past⟩ := expired.past row mem (same.trans hash)
    have refused : row.expiresAt.any (· ≤ visit.now.ms) = true := by
      rw [expires, Option.any_some, decide_eq_true_eq]
      exact past.trans late
    have valid : checkRecord visit.options visit.now.ms row.toAuthTokenRecord = .ok () := valid
    simp only [checkRecord, if_pos refused] at valid
    cases valid
  | @master shown presents unknown key =>
    obtain rfl := Except.ok.inj (presented.symm.trans presents)
    exact ordinary.key (Option.filter_eq_some_iff.mp key).1
  | @demo shown consume presents unknown other pool named allowed =>
    obtain rfl := Except.ok.inj (presented.symm.trans presents)
    rw [ordinary.demo] at named
    cases named

variable [DateParser]

/-- After any statements of any calls on tokens, a tenant is served to the holder of a token that
some call created for that tenant, if the vault finds it valid. Else it is the administrator or
the demo, and the token the master key or a demo token. -/
theorem served_entitled (now : Int) (calls : List (Operation κ)) (schedule : List Event)
    (visit : EdgeVisit) (required : visit.env.requireAuth ≠ some false)
    (on_time : visit.now.ms = (run aes masterKey (begin now calls) schedule).shared.now)
    (served : Served) (tenantId : String)
    (fetched : ((run aes masterKey (begin now calls) schedule).shared.visited visit).served =
      .ok served)
    (tenant : served.tenant = some tenantId) :
    ∃ rawToken, extractBearerToken visit.request.authorization = .ok rawToken ∧
      Entitles calls (run aes masterKey (begin now calls) schedule).shared visit rawToken
        tenantId := by
  obtain ⟨kept, -⟩ := (begin_sound (κ := κ) now calls).run schedule
  rw [run_operations, begin_operations] at kept
  exact Bears.entitles kept on_time (bears_of_served required fetched tenant)

/-- From the statement on that revokes its row, whatever calls go on, and at whatever host, path
and time the token is presented, the gateway serves its holder no tenant, unless a call that is
not over creates the token anew or sets its expiry. -/
theorem revoked_unserved (now : Int) (calls : List (Operation κ))
    (before after : List Event) (i : Nat) (row : StoredToken)
    (revoking : Revoking (run aes masterKey (begin now calls) before) i row)
    (visit : EdgeVisit) (rawToken : String) (required : visit.env.requireAuth ≠ some false)
    (presented : extractBearerToken visit.request.authorization = .ok rawToken)
    (hash : Edge.hashToken rawToken = row.hashSha256) (ordinary : Ordinary visit rawToken)
    (late : (afterwards aes masterKey (run aes masterKey (begin now calls) before) i after).now ≤
      visit.now.ms)
    (served : Served)
    (fetched : ((afterwards aes masterKey (run aes masterKey (begin now calls) before) i
      after).visited visit).served = .ok served) :
    served.tenant = none := by
  have expired := revoking.expired after
  by_contra serves
  obtain ⟨tenantId, tenant⟩ := Option.ne_none_iff_exists'.mp serves
  exact expired.bears_not late presented hash ordinary (bears_of_served required fetched tenant)

end Edge

section Examples

attribute [local instance] asciiHost plainEdge AdminGate.isoDates

/-- The holder of the token asks the chat. -/
def houseVisit : EdgeVisit :=
  { EdgeVisit.masterChat with
    now := ⟨5, by decide⟩
    request := { EdgeVisit.masterChat.request with authorization := some "Bearer kc-1" } }

theorem houseVisit_presents :
    extractBearerToken houseVisit.request.authorization = .ok "kc-1" := by
  decide +kernel

theorem served_entitled_house :
    ∃ rawToken, extractBearerToken houseVisit.request.authorization = .ok rawToken ∧
      Entitles houseCalls
        (run shiftCipher passphrase (begin 0 houseCalls) [.resume 0, .tick 5]).shared houseVisit
        rawToken "t1" := by
  have chats : ((run shiftCipher passphrase (begin 0 houseCalls)
      [.resume 0, .tick 5]).shared.visited houseVisit).served.toOption.bind Served.tenant =
        some "t1" := by
    decide +kernel
  cases fetched : ((run shiftCipher passphrase (begin 0 houseCalls)
      [.resume 0, .tick 5]).shared.visited houseVisit).served with
  | error =>
    rw [fetched] at chats
    cases chats
  | ok served =>
    rw [fetched] at chats
    exact served_entitled 0 houseCalls [.resume 0, .tick 5] houseVisit (by decide) rfl served "t1"
      fetched chats

theorem revoked_unserved_house :
    ((afterwards shiftCipher passphrase house 1 []).visited houseVisit).served.toOption.bind
      Served.tenant = none := by
  obtain ⟨row, revoking, hash⟩ := house_revoking
  cases fetched : ((afterwards shiftCipher passphrase house 1 []).visited houseVisit).served with
  | error => rfl
  | ok served =>
    exact revoked_unserved 0 houseCalls [.resume 0, .tick 5, .resume 1] [] 1 row revoking
      houseVisit "kc-1" (by decide) houseVisit_presents hash.symm ⟨by decide, by decide⟩ le_rfl
      served fetched

end Examples

end KeyCollective.TokenVault
