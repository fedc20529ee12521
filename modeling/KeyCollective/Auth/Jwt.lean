import KeyCollective.Crypto.Encoding
import KeyCollective.Proxy.Transformer

/-!
# Session tokens

`issueUserJWT` signs the claims of a user with HMAC-SHA256 and `verifyUserJWT` reads them back.
Instants are in milliseconds; both functions count in whole seconds.
-/

namespace KeyCollective.Jwt

open Sse (JsonParser units)

/-- `object[key] = value`. -/
def withField (key : String) (value : Json) : List (String × Json) → List (String × Json)
  | [] => [(key, value)]
  | field :: rest =>
    if field.1 = key then (key, value) :: rest else field :: withField key value rest

/-- The claims a token is asked for. The times are numbers, as their types say. -/
structure TokenPayload where
  fields : List (String × Json)
  iat : ∀ value, (Json.object fields).get "iat" = some value → ∃ seconds, value = .number seconds
  exp : ∀ value, (Json.object fields).get "exp" = some value → ∃ seconds, value = .number seconds

inductive Failure where
  | signingSecret
  | payloadClaims
  | missingToken
  | verificationSecret
  | segments
  | header
  | algorithm (got : Option Json)
  | signatureSegment
  | signature
  | payload
  | expired (exp : Number) (nowSec : Int)
  /-- A property of `null` is read. -/
  | typeError

/-- `display` writes a value into a message. -/
def Failure.message (display : Option Json → String) : Failure → String
  | signingSecret => "JWT signing secret must be non-empty"
  | payloadClaims => "JWT payload requires sub and tenantId claims"
  | missingToken => "JWT token must be a non-empty string"
  | verificationSecret => "JWT verification secret must be non-empty"
  | segments => "Malformed JWT: token must have exactly 3 segments"
  | header => "Malformed JWT header: invalid Base64URL or JSON"
  | algorithm got => "Unsupported JWT algorithm: expected HS256, got " ++ display got
  | signatureSegment => "Malformed JWT signature segment"
  | signature => "JWT signature verification failed"
  | payload => "Malformed JWT payload: invalid Base64URL or JSON"
  | expired _ _ => "JWT has expired"
  | typeError => "Cannot read properties of null"

def Failure.reason : Failure → Option String
  | signingSecret | verificationSecret => some "invalid_jwt_secret"
  | payloadClaims => some "invalid_jwt_payload"
  | missingToken => some "missing_token"
  | segments | header | payload => some "malformed_token"
  | algorithm _ => some "unsupported_jwt_algorithm"
  | signatureSegment | signature => some "invalid_signature"
  | expired _ _ => some "expired_token"
  | typeError => none

/-- `Math.floor(now / 1000)`. -/
def wholeSeconds (now : Int) : Int := now / 1000

namespace TokenPayload

variable (payload : TokenPayload)

def issuedAt (now : Int) : Number :=
  ((Json.object payload.fields).getNumber "iat").getD (.finite (wholeSeconds now))

def expiry (expiresInSeconds : Option Number) (now : Int) : Number :=
  ((Json.object payload.fields).getNumber "exp").getD
    ((payload.issuedAt now).add (expiresInSeconds.getD (.finite 86400)))

def issuer : String := ((Json.object payload.fields).getString "iss").getD "key-collective"

def fullPayload (expiresInSeconds : Option Number) (now : Int) : Json :=
  .object (withField "iss" (.string payload.issuer)
    (withField "exp" (.number (payload.expiry expiresInSeconds now))
      (withField "iat" (.number (payload.issuedAt now)) payload.fields)))

end TokenPayload

def jwtHeader : Json := .object [("alg", .string "HS256"), ("typ", .string "JWT")]

/-- The bytes of a text, as a segment. -/
def segment (text : List Char) : String := uint8ArrayToBase64Url (stringToBytes (String.ofList text))

def signingInput (headerB64 payloadB64 : String) : String := headerB64 ++ "." ++ payloadB64

/-- HMAC-SHA256 of the runtime: the key, then the message. -/
abbrev Mac := Bytes → Bytes → Bytes

section

variable [NumberText] (mac : Mac)

def sign (secret input : String) : Bytes := mac (stringToBytes secret) (stringToBytes input)

def issueUserJWT (payload : TokenPayload) (secret : String) (expiresInSeconds : Option Number)
    (now : Int) : Except Failure String :=
  if isBlank secret then .error .signingSecret
  else if !Json.isTruthy ((Json.object payload.fields).get "sub") ||
      !Json.isTruthy ((Json.object payload.fields).get "tenantId") then .error .payloadClaims
  else
    let input := signingInput (segment jwtHeader.stringify)
      (segment (payload.fullPayload expiresInSeconds now).stringify)
    .ok (input ++ "." ++ uint8ArrayToBase64Url (sign mac secret input))

variable [JsonParser]

/-- None is any error on the way. -/
def readSegment (segment : String) : Option Json := do
  let bytes ← base64UrlToUint8Array segment
  let json ← bytesToString bytes
  JsonParser.parse (units json)

def checkExpiry (payload : Json) (now : Int) : Except Failure Json :=
  match payload with
  | .null => .error .typeError
  | payload =>
    match payload.getNumber "exp" with
    | some exp =>
      if exp.atMost (wholeSeconds now) then .error (.expired exp (wholeSeconds now)) else .ok payload
    | none => .ok payload

def checkAlgorithm (header : Json) : Except Failure Unit :=
  match header with
  | .null => .error .typeError
  | header =>
    if header.getString "alg" = some "HS256" then .ok ()
    else .error (.algorithm (header.get "alg"))

def verifyUserJWT (token secret : String) (now : Int) : Except Failure Json :=
  if isBlank token then .error .missingToken
  else if isBlank secret then .error .verificationSecret
  else match ((trimChars token.toList).splitOn '.').map String.ofList with
  | [headerB64, payloadB64, signatureB64] =>
    match readSegment headerB64 with
    | none => .error .header
    | some header =>
      match checkAlgorithm header with
      | .error failure => .error failure
      | .ok () =>
        match base64UrlToUint8Array signatureB64 with
        | none => .error .signatureSegment
        | some signatureBytes =>
          if sign mac secret (signingInput headerB64 payloadB64) ≠ signatureBytes then
            .error .signature
          else match readSegment payloadB64 with
          | none => .error .payload
          | some payload => checkExpiry payload now
  | _ => .error .segments

end

/-! ## The claims of a token -/

theorem get_withField_self (key : String) (value : Json) (fields : List (String × Json)) :
    (Json.object (withField key value fields)).get key = some value := by
  induction fields with
  | nil => simp [withField, Json.get]
  | cons field rest ih =>
    simp only [Json.get] at ih ⊢
    by_cases same : field.1 = key
    · simp [withField, same]
    · simpa [withField, same] using ih

theorem get_withField_other {key other : String} (differs : other ≠ key) (value : Json)
    (fields : List (String × Json)) :
    (Json.object (withField key value fields)).get other = (Json.object fields).get other := by
  induction fields with
  | nil => simp [withField, Json.get, differs.symm]
  | cons field rest ih =>
    simp only [Json.get] at ih ⊢
    by_cases same : field.1 = key
    · simp [withField, same, differs.symm]
    · by_cases here : field.1 = other
      · simp [withField, here, differs]
      · simpa [withField, same, here] using ih

/-- A value with the claims asked for, and the times and the issuer they have or are given. -/
structure Carries (payload : TokenPayload) (expiresInSeconds : Option Number) (now : Int)
    (value : Json) : Prop where
  iat : value.get "iat" = some (.number (payload.issuedAt now))
  exp : value.get "exp" = some (.number (payload.expiry expiresInSeconds now))
  iss : value.get "iss" = some (.string payload.issuer)
  others : ∀ key, key ≠ "iat" → key ≠ "exp" → key ≠ "iss" →
    value.get key = (Json.object payload.fields).get key

theorem fullPayload_carries (payload : TokenPayload) (expiresInSeconds : Option Number)
    (now : Int) :
    Carries payload expiresInSeconds now (payload.fullPayload expiresInSeconds now) where
  iat := by
    rw [TokenPayload.fullPayload, get_withField_other (by decide),
      get_withField_other (by decide), get_withField_self]
  exp := by
    rw [TokenPayload.fullPayload, get_withField_other (by decide), get_withField_self]
  iss := get_withField_self _ _ _
  others key iat exp iss := by
    rw [TokenPayload.fullPayload, get_withField_other iss, get_withField_other exp,
      get_withField_other iat]

/-! ## Segments -/

theorem mem_segment {bytes : Bytes} {c : Char} (mem : c ∈ (uint8ArrayToBase64Url bytes).toList) :
    isWhiteSpace c = false ∧ c ≠ '.' := by
  have table : ∀ n < 64, isWhiteSpace (urlChar (Base64.digit n)) = false ∧
      urlChar (Base64.digit n) ≠ '.' := by decide
  rw [toList_uint8ArrayToBase64Url] at mem
  obtain ⟨digit, written, rfl⟩ := List.mem_map.mp mem
  obtain ⟨n, small, rfl⟩ := Base64.mem_digits written
  exact table n small

theorem split_token (header payload signature : Bytes) :
    (trimChars (uint8ArrayToBase64Url header ++ "." ++ uint8ArrayToBase64Url payload ++ "." ++
        uint8ArrayToBase64Url signature).toList).splitOn '.' =
      [(uint8ArrayToBase64Url header).toList, (uint8ArrayToBase64Url payload).toList,
        (uint8ArrayToBase64Url signature).toList] := by
  have written : (uint8ArrayToBase64Url header ++ "." ++ uint8ArrayToBase64Url payload ++ "." ++
      uint8ArrayToBase64Url signature).toList = (uint8ArrayToBase64Url header).toList ++ '.' ::
        ((uint8ArrayToBase64Url payload).toList ++ '.' ::
          (uint8ArrayToBase64Url signature).toList) := by
    simp [String.toList_append]
  have dotless (bytes : Bytes) : '.' ∉ (uint8ArrayToBase64Url bytes).toList := fun mem =>
    (mem_segment mem).2 rfl
  have plain : ∀ c ∈ (uint8ArrayToBase64Url header).toList ++ '.' ::
      ((uint8ArrayToBase64Url payload).toList ++ '.' :: (uint8ArrayToBase64Url signature).toList),
      isWhiteSpace c = false := by
    have dot : isWhiteSpace '.' = false := by decide
    simp only [List.mem_append, List.mem_cons]
    rintro c (mem | rfl | mem | rfl | mem)
    · exact (mem_segment mem).1
    · exact dot
    · exact (mem_segment mem).1
    · exact dot
    · exact (mem_segment mem).1
  rw [written, trimChars_plain plain, List.splitOn_append_cons_self_of_not_mem (dotless header),
    List.splitOn_append_cons_self_of_not_mem (dotless payload),
    List.splitOn_eq_singleton (dotless signature)]

section

variable [NumberText] [JsonParser]

/-- What `JSON.parse` makes of what `JSON.stringify` writes is the value. -/
def Representable (value : Json) : Prop :=
  JsonParser.parse (units (String.ofList value.stringify)) = some value

/-- The text of an object starts with a brace, not with a byte order mark. -/
theorem readSegment_segment {fields : List (String × Json)}
    (representable : Representable (.object fields)) :
    readSegment (segment (Json.object fields).stringify) = some (.object fields) := by
  have unmarked : unmarked (String.ofList (Json.object fields).stringify) =
      String.ofList (Json.object fields).stringify := by
    rw [unmarked_eq_self_iff, String.toList_ofList, Json.stringify]
    simp
  rw [readSegment, segment, base64UrlToUint8Array_uint8ArrayToBase64Url, Option.bind_eq_bind,
    Option.bind_some, bytesToString_stringToBytes, Option.bind_eq_bind, Option.bind_some, unmarked]
  exact representable

/-! ## Issue and verification -/

variable (mac : Mac)

/-- What the segments of a token have to say for it to be accepted. -/
structure Accepted (token secret : String) (now : Int) (payload : Json) : Prop where
  segments : ∃ headerB64 payloadB64 signatureB64,
    ((trimChars token.toList).splitOn '.').map String.ofList =
        [headerB64, payloadB64, signatureB64] ∧
      base64UrlToUint8Array signatureB64 =
        some (sign mac secret (signingInput headerB64 payloadB64)) ∧
      readSegment payloadB64 = some payload
  unexpired : ∀ exp, payload.getNumber "exp" = some exp → ¬exp.atMost (wholeSeconds now)

omit [NumberText] [JsonParser] in
theorem checkExpiry_ok {payload verified : Json} {now : Int}
    (accepted : checkExpiry payload now = .ok verified) :
    verified = payload ∧
      ∀ exp, payload.getNumber "exp" = some exp → ¬exp.atMost (wholeSeconds now) := by
  unfold checkExpiry at accepted
  split at accepted
  · cases accepted
  · split at accepted
    · rename_i exp found
      split_ifs at accepted with expired
      refine ⟨(Except.ok.inj accepted).symm, fun other same => ?_⟩
      rw [found] at same
      rwa [← Option.some.inj same]
    · rename_i missing
      refine ⟨(Except.ok.inj accepted).symm, fun other same => ?_⟩
      rw [missing] at same
      cases same

omit [NumberText] in
theorem verifyUserJWT_ok {token secret : String} {now : Int} {payload : Json}
    (verified : verifyUserJWT mac token secret now = .ok payload) :
    Accepted mac token secret now payload := by
  unfold verifyUserJWT at verified
  split_ifs at verified
  split at verified
  · rename_i headerB64 payloadB64 signatureB64 segments
    split at verified
    · cases verified
    split at verified
    · cases verified
    split at verified
    · cases verified
    rename_i signatureBytes decoded
    split_ifs at verified with forged
    split at verified
    · cases verified
    rename_i value read
    obtain ⟨rfl, unexpired⟩ := checkExpiry_ok verified
    refine ⟨⟨headerB64, payloadB64, signatureB64, segments, ?_, read⟩, unexpired⟩
    rw [decoded, not_not.mp forged]
  · cases verified

omit [JsonParser] in
/-- An issued token, segment by segment. -/
theorem issueUserJWT_ok {payload : TokenPayload} {secret : String}
    {expiresInSeconds : Option Number} {now : Int} {token : String}
    (issued : issueUserJWT mac payload secret expiresInSeconds now = .ok token) :
    isBlank secret = false ∧
      token = signingInput (segment jwtHeader.stringify)
        (segment (payload.fullPayload expiresInSeconds now).stringify) ++ "." ++
          uint8ArrayToBase64Url (sign mac secret (signingInput (segment jwtHeader.stringify)
            (segment (payload.fullPayload expiresInSeconds now).stringify))) := by
  unfold issueUserJWT at issued
  split_ifs at issued with blank claims
  exact ⟨Bool.eq_false_iff.mpr blank, (Except.ok.inj issued).symm⟩

omit [NumberText] [JsonParser] in
theorem checkExpiry_early {fields : List (String × Json)} {now : Int}
    (early : ∀ exp, (Json.object fields).getNumber "exp" = some exp →
      ¬exp.atMost (wholeSeconds now)) :
    checkExpiry (.object fields) now = .ok (.object fields) := by
  simp only [checkExpiry]
  cases found : (Json.object fields).getNumber "exp" with
  | none => rfl
  | some exp => exact if_neg (early exp found)

/-- A token that was issued is accepted as long as the whole second is before its expiry. -/
theorem verify_issued (header : Representable jwtHeader) {payload : TokenPayload}
    {secret : String} {expiresInSeconds : Option Number} {issuedAt : Int} {token : String}
    (issued : issueUserJWT mac payload secret expiresInSeconds issuedAt = .ok token)
    (representable : Representable (payload.fullPayload expiresInSeconds issuedAt)) {now : Int}
    (early : ∀ exp,
      (payload.fullPayload expiresInSeconds issuedAt).getNumber "exp" = some exp →
        ¬exp.atMost (wholeSeconds now)) :
    verifyUserJWT mac token secret now =
      .ok (payload.fullPayload expiresInSeconds issuedAt) := by
  obtain ⟨usable, rfl⟩ := issueUserJWT_ok mac issued
  let input := signingInput (segment jwtHeader.stringify)
    (segment (payload.fullPayload expiresInSeconds issuedAt).stringify)
  have split := split_token (stringToBytes (String.ofList jwtHeader.stringify))
    (stringToBytes (String.ofList (payload.fullPayload expiresInSeconds issuedAt).stringify))
    (sign mac secret input)
  have dot : '.' ∈ (input ++ "." ++ uint8ArrayToBase64Url (sign mac secret input)).toList := by
    simp [String.toList_append]
  have written : isBlank (input ++ "." ++ uint8ArrayToBase64Url (sign mac secret input)) = false := by
    refine Bool.eq_false_iff.mpr fun blank => ?_
    exact absurd (List.all_eq_true.mp blank '.' dot) (by decide)
  have readHeader : readSegment (segment jwtHeader.stringify) = some jwtHeader :=
    readSegment_segment header
  have readPayload : readSegment (segment (payload.fullPayload expiresInSeconds issuedAt).stringify) =
      some (payload.fullPayload expiresInSeconds issuedAt) :=
    readSegment_segment representable
  have algorithm : checkAlgorithm jwtHeader = .ok () := by
    simp [checkAlgorithm, jwtHeader, Json.getString, Json.get]
  have segments : ((trimChars (input ++ "." ++
      uint8ArrayToBase64Url (sign mac secret input)).toList).splitOn '.').map String.ofList =
      [segment jwtHeader.stringify,
        segment (payload.fullPayload expiresInSeconds issuedAt).stringify,
        uint8ArrayToBase64Url (sign mac secret input)] := by
    refine (congrArg (List.map String.ofList) split).trans ?_
    simp only [List.map_cons, List.map_nil, String.ofList_toList]
    rfl
  unfold verifyUserJWT
  rw [if_neg (Bool.eq_false_iff.mp written), if_neg (Bool.eq_false_iff.mp usable), segments]
  simp only [readHeader, algorithm, base64UrlToUint8Array_uint8ArrayToBase64Url, readPayload]
  rw [if_neg (not_not.mpr rfl)]
  exact checkExpiry_early early

/-! ## Time -/

omit [NumberText] [JsonParser] in
/-- Before an instant the whole second is before it. -/
theorem not_atMost_of_above {exp : Number} {now : Int} (early : exp.above ((now : ℚ) / 1000)) :
    ¬exp.atMost (wholeSeconds now) := by
  cases exp with
  | finite value =>
    have rounded : wholeSeconds now * 1000 ≤ now := Int.ediv_mul_le now (by decide)
    have cast : ((wholeSeconds now : Int) : ℚ) * 1000 ≤ now := by exact_mod_cast rounded
    have before : (now : ℚ) / 1000 < value := of_decide_eq_true early
    simp only [Number.atMost, decide_eq_true_eq, not_le]
    linarith
  | infinity => simp [Number.atMost]
  | negInfinity => simp [Number.above] at early
  | nan => simp [Number.atMost]

omit [NumberText] [JsonParser] in
/-- A whole second that is not reached is ahead. -/
theorem lt_of_not_atMost {seconds now : Int}
    (unexpired : ¬(Number.finite seconds).atMost (wholeSeconds now)) : now < 1000 * seconds := by
  simp only [Number.atMost, decide_eq_true_eq, not_le, Int.cast_lt] at unexpired
  unfold wholeSeconds at unexpired
  omega

/-- A token comes back with its claims at every instant before its expiry. What is accepted is
signed over its first two segments and decoded from the second, and no expiry of it had passed
at the whole second; one in whole seconds has not passed at all. -/
theorem session_tokens_sound (header : Representable jwtHeader) :
    (∀ (payload : TokenPayload) (secret : String) (expiresInSeconds : Option Number)
      (issuedAt : Int) (token : String),
      issueUserJWT mac payload secret expiresInSeconds issuedAt = .ok token →
      Representable (payload.fullPayload expiresInSeconds issuedAt) →
      ∃ claims, Carries payload expiresInSeconds issuedAt claims ∧
        ∀ now : Int, (payload.expiry expiresInSeconds issuedAt).above ((now : ℚ) / 1000) →
          verifyUserJWT mac token secret now = .ok claims) ∧
    ∀ (token secret : String) (now : Int) (payload : Json),
      verifyUserJWT mac token secret now = .ok payload →
      Accepted mac token secret now payload ∧
        ∀ seconds : Int, payload.getNumber "exp" = some (.finite seconds) →
          now < 1000 * seconds := by
  constructor
  · intro payload secret expiresInSeconds issuedAt token issued representable
    have carries := fullPayload_carries payload expiresInSeconds issuedAt
    refine ⟨_, carries, fun now before => verify_issued mac header issued representable ?_⟩
    intro exp found
    simp only [Json.getNumber, carries.exp, Option.some.injEq] at found
    rw [← found]
    exact not_atMost_of_above before
  · intro token secret now payload verified
    have accepted := verifyUserJWT_ok mac verified
    exact ⟨accepted, fun seconds found => lt_of_not_atMost (accepted.unexpired _ found)⟩

end

section Examples

/-- The texts of whole numbers and of halves. -/
@[reducible] def halfText : NumberText where
  ofFinite value := if value.den = 1 then toString value.num else toString (value.num / 2) ++ ".5"

attribute [local instance] halfText

/-- A user whose session ends in the middle of a second. -/
def halfClaims : TokenPayload where
  fields := [("sub", .string "u"), ("tenantId", .string "t"), ("exp", .number (.finite (3 / 2)))]
  iat value found := by simp [Json.get] at found
  exp value found := ⟨.finite (3 / 2), by simpa [Json.get] using found.symm⟩

/-- The two texts of its token. -/
@[reducible] def halfJson : JsonParser where
  parse text :=
    if text = units (String.ofList jwtHeader.stringify) then some jwtHeader
    else if text = units (String.ofList (halfClaims.fullPayload none 0).stringify) then
      some (halfClaims.fullPayload none 0)
    else none

attribute [local instance] halfJson

def plainMac : Mac := fun key message => key ++ message

theorem halfHeader_representable : Representable jwtHeader := if_pos rfl

theorem halfClaims_representable : Representable (halfClaims.fullPayload none 0) := by
  have differs : units (String.ofList (halfClaims.fullPayload none 0).stringify) ≠
      units (String.ofList jwtHeader.stringify) := by decide +kernel
  exact (if_neg differs).trans (if_pos rfl)

theorem session_tokens_sound_half : ∃ token, issueUserJWT plainMac halfClaims "s" none 0 = .ok token ∧
    ∃ claims, Carries halfClaims none 0 claims ∧
      verifyUserJWT plainMac token "s" 1400 = .ok claims ∧
      Accepted plainMac token "s" 1400 claims := by
  obtain ⟨complete, sound⟩ := session_tokens_sound plainMac halfHeader_representable
  obtain ⟨claims, carries, accepts⟩ := complete halfClaims "s" none 0 _ rfl halfClaims_representable
  have verified := accepts 1400 (by decide +kernel)
  exact ⟨_, rfl, claims, carries, verified, (sound _ _ _ _ verified).1⟩

/-- A tenth of a second after its expiry the token is accepted. -/
theorem half_second_accepted : ∃ token, issueUserJWT plainMac halfClaims "s" none 0 = .ok token ∧
    ∃ claims, verifyUserJWT plainMac token "s" 1600 = .ok claims ∧
      claims.getNumber "exp" = some (.finite (3 / 2)) ∧ (3 / 2 : ℚ) < 1600 / 1000 := by
  refine ⟨_, rfl, _, verify_issued plainMac halfHeader_representable rfl halfClaims_representable ?_,
    ?_, by norm_num⟩
  · intro exp found
    simp only [Json.getNumber, (fullPayload_carries halfClaims none 0).exp, Option.some.injEq] at found
    rw [← found]
    decide +kernel
  · simp only [Json.getNumber, (fullPayload_carries halfClaims none 0).exp]
    decide +kernel

end Examples

end KeyCollective.Jwt
