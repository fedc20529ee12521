import KeyCollective.Auth.Sybil

/-!
# The two engines

Each engine is cut where it asks for its count: what stands before only reads its input, and
what stands behind turns the count into a grade, and says whether to record the registration.
-/

namespace KeyCollective.Sybil

open Quota (UserTier)

/-- The reason is given where the condition holds. -/
def reason (condition : Bool) (text : String) : List String := if condition then [text] else []

/-! ## `evaluateAntiSybil` -/

structure GitHubMaturityProfile where
  primaryEmail : Option String := none
  isEmailVerified : Option Bool := none
  createdAt : Option Moment := none
  publicRepos : Option Number := none
  contributionsCount : Option Number := none
  totalContributions : Option Number := none

structure AntiSybilInput where
  turnstileToken : Option String := none
  clientIp : String
  asn : Option Asn := none
  country : Option String := none
  isTor : Option Bool := none
  githubProfile : GitHubMaturityProfile

structure EvaluateAntiSybilOptions where
  turnstileSecret : Option String := none
  fetch : Option SiteVerify := none
  recordOnPass : Option Bool := none

structure Checks where
  turnstileValid : Bool
  emailNonDisposable : Bool
  accountAgeDays : Number
  publicRepos : Number
  contributionsCount : Number
  subnetRegistrationCount : Nat
deriving DecidableEq

structure AntiSybilAssessment where
  passed : Bool
  score : Int
  tier : UserTier
  checks : Checks
  auditReasons : List String
deriving DecidableEq

def AntiSybilInput.ip (input : AntiSybilInput) : String :=
  if input.clientIp = "" then "0.0.0.0" else input.clientIp

section Engines

variable [Host] [NumberReader] [NumberText] [DateParser]

/-- `evaluateAntiSybil` behind its count, and whether the registration is recorded. -/
def concludeAntiSybil (input : AntiSybilInput) (options : EvaluateAntiSybilOptions) (nowMs : Int)
    (subnetRegistrationCount : Nat) : AntiSybilAssessment × Bool :=
  let turnstileResult :=
    verifyTurnstileToken input.turnstileToken options.turnstileSecret options.fetch
  let turnstileValid := turnstileResult.success
  let subnet := extractSubnet input.ip
  let isSubnetExceeded : Bool := maxRegistrationsPerSubnet ≤ subnetRegistrationCount
  let isDatacenter := isDatacenterAsn input.asn
  let isTor : Bool := input.isTor = some true ∨ input.country = some "T1"
  let email := trim (input.githubProfile.primaryEmail.getD "")
  let isDisposable := isDisposableEmail email
  let isEmailVerified := input.githubProfile.isEmailVerified.getD false
  let accountAgeDays := accountAgeDays nowMs (createdAtMs nowMs input.githubProfile.createdAt)
  let publicRepos := (input.githubProfile.publicRepos.getD (.finite 0)).max0
  let contributionsCount :=
    ((input.githubProfile.contributionsCount.or input.githubProfile.totalContributions).getD
      (.finite 0)).max0
  let isMatureAge := accountAgeDays.atLeast builderMinAccountAgeDays
  let hasMinRepos := publicRepos.atLeast builderMinPublicRepos
  let hasMinContributions := contributionsCount.atLeast builderMinContributions
  let auditReasons :=
    reason (!turnstileValid)
      ("Turnstile challenge verification failed: " ++ turnstileResult.codes) ++
    reason isSubnetExceeded ("Subnet velocity limit exceeded: " ++
      toString subnetRegistrationCount ++ " active registrations in " ++ subnet ++
      " within 30 days") ++
    reason isDatacenter ("Datacenter ASN (" ++ ((input.asn.map Asn.display).getD "undefined") ++
      ") detected: elevated proxy risk") ++
    reason isTor "Tor exit node detected: anonymous proxy egress" ++
    reason isDisposable ("Disposable email domain rejected: " ++ email) ++
    reason (!isEmailVerified) "Primary GitHub email address is unverified" ++
    reason (!isMatureAge)
      ("GitHub account age (" ++ accountAgeDays.text ++ "d) is less than required 30 days") ++
    reason (!hasMinRepos) ("GitHub public repos (" ++ publicRepos.text ++
      ") is less than required 1 (0 public repositories)") ++
    reason (!hasMinContributions)
      ("GitHub contributions count (" ++ contributionsCount.text ++ ") is less than required 5")
  let score : Int :=
    if turnstileValid then
      let score : Int := 100
      let score := if isSubnetExceeded then score - 45 else score
      let score := if isDatacenter then score - 25 else score
      let score := if isTor then score - 30 else score
      let score := if isDisposable then min score 20 else score
      let score := if isEmailVerified then score else score - 25
      let score := if isMatureAge then score else score - 20
      let score := if hasMinRepos then score else score - 15
      if hasMinContributions then score else score - 10
    else 0
  let score := clampScore score
  let (tier, passed) := decideTier turnstileValid isDisposable
    (isMatureAge && hasMinRepos && hasMinContributions) isSubnetExceeded score
  let checks :=
    { turnstileValid, emailNonDisposable := !isDisposable, accountAgeDays, publicRepos,
      contributionsCount, subnetRegistrationCount }
  ({ passed, score, tier, checks, auditReasons }, passed && options.recordOnPass.getD true)

/-! ## `calculateSybilScore` -/

structure CfPropertiesLike where
  asn : Option Asn := none
  country : Option String := none
  isTor : Option Bool := none
  /-- `botManagement?.score`. -/
  botScore : Option Number := none

structure SybilUserInput where
  username : Option String := none
  login : Option String := none
  githubUsername : Option String := none
  email : Option String := none
  primaryEmail : Option String := none
  isEmailVerified : Option Bool := none
  createdAt : Option Moment := none
  githubCreatedAt : Option Moment := none
  publicRepos : Option Number := none
  contributionsCount : Option Number := none
  totalContributions : Option Number := none
  contributions : Option Number := none
  accessToken : Option String := none
  token : Option String := none
  turnstileToken : Option String := none
  registrationIp : Option String := none

/-- The header names are in lower case. -/
structure SybilRequestInput where
  headers : List (String × String) := []
  cf : Option CfPropertiesLike := none
  ip : Option String := none
  clientIp : Option String := none
  turnstileToken : Option String := none

/-- The profile GitHub answers with. -/
structure GitHubUser where
  createdAt : Option String := none
  publicRepos : Option Number := none
  email : Option String := none
  totalContributions : Option Number := none
  contributions : Option Number := none
  contributionsCount : Option Number := none

def extractHeaderValue (req : Option SybilRequestInput) (name : String) : Option String :=
  req.bind fun req => req.headers.lookup name

/-- A header, the request, the user, or the loopback address. -/
def resolveClientIp (user : SybilUserInput) (req : Option SybilRequestInput) : String :=
  let header := (extractHeaderValue req "cf-connecting-ip").or <|
    (extractHeaderValue req "x-real-ip").or <|
    (extractHeaderValue req "x-forwarded-for").map fun ips => trim ((splitOn ',' ips).headD "")
  let clientIp :=
    if isFalsy header then (req.bind fun req => req.clientIp.or req.ip).or header else header
  let clientIp := if isFalsy clientIp then user.registrationIp else clientIp
  if isFalsy clientIp then "127.0.0.1" else clientIp.getD ""

structure ResolvedProfile where
  createdAt : Option Moment
  publicRepos : Option Number
  contributions : Option Number
  email : Option String

/-- What the user does not say is taken from GitHub, which is asked about a user name or with a
token and may not answer. -/
def resolveProfile (user : SybilUserInput) (github : Option GitHubUser) : ResolvedProfile :=
  let said : ResolvedProfile :=
    { createdAt := user.createdAt.or user.githubCreatedAt
      publicRepos := user.publicRepos
      contributions := user.contributionsCount.or (user.totalContributions.or user.contributions)
      email := user.email.or user.primaryEmail }
  let ghUsername := user.username.or (user.login.or user.githubUsername)
  let ghToken := user.accessToken.or user.token
  if isFalsy ghUsername ∧ isFalsy ghToken then said
  else match github with
    | none => said
    | some data =>
      { createdAt :=
          if !isFalsy data.createdAt ∧ (said.createdAt.map Moment.isFalsy).getD true then
            data.createdAt.map .text
          else said.createdAt
        publicRepos := said.publicRepos.or data.publicRepos
        contributions := said.contributions.or <|
          data.totalContributions.or (data.contributions.or data.contributionsCount)
        email := if !isFalsy data.email ∧ isFalsy said.email then data.email else said.email }

def resolveBotScore (req : Option SybilRequestInput) : Option Number :=
  match (req.bind SybilRequestInput.cf).bind CfPropertiesLike.botScore with
  | some score => some score
  | none =>
    ((extractHeaderValue req "cf-bot-score").or (extractHeaderValue req "x-bot-score")).bind
      fun header => (some (NumberReader.toNumber header)).filter (· ≠ .nan)

def resolveTurnstileToken (user : SybilUserInput) (req : Option SybilRequestInput) :
    Option String :=
  (extractHeaderValue req "cf-turnstile-response").or <|
  (extractHeaderValue req "cf-turnstile-token").or <|
  (extractHeaderValue req "x-turnstile-token").or <|
  (extractHeaderValue req "turnstile-token").or <|
  (req.bind SybilRequestInput.turnstileToken).or user.turnstileToken

/-- Whether the bot checks pass, and the reason when they do not. No secret is given, so only
the test tokens are known. -/
def checkTurnstile (botScore : Option Number) (turnstileToken : Option String)
    (fetch : Option SiteVerify) : Bool × List String :=
  match botScore.filter (·.below 30) with
  | some botScore =>
    (false, ["Cloudflare Turnstile bot score too low: " ++ botScore.text ++ " (bot detected)"])
  | none =>
    match turnstileToken.filter fun token => trim token ≠ "" with
    | none => (true, [])
    | some token =>
      let turnstileResult := verifyTurnstileToken (some token) none fetch
      (turnstileResult.success, reason (!turnstileResult.success)
        ("Turnstile bot verification failed: " ++ turnstileResult.codes))

structure Flags where
  isVpnOrProxy : Bool
  isTor : Bool
  isDisposableEmail : Bool
  rateLimitExceeded : Bool
  turnstileFailed : Bool
  ipVelocityExceeded : Bool
  disposableEmail : Bool
  youngAccount : Bool
  lowActivity : Bool
deriving DecidableEq

structure Details where
  turnstileValid : Bool
  turnstileScore : Option Number
  subnetRegistrationCount : Nat
  accountAgeDays : Number
  publicRepos : Number
  contributionsCount : Number
  email : String
  ip : String
  assessmentScore : Int
deriving DecidableEq

structure SybilScoreResult where
  score : Int
  passed : Bool
  tier : UserTier
  riskLevel : RiskLevel
  reasons : List String
  flags : Flags
  ip : String
  details : Details
deriving DecidableEq

/-- `calculateSybilScore` behind its count, and whether the registration is recorded. -/
def concludeSybilScore (user : SybilUserInput) (req : Option SybilRequestInput)
    (github : Option GitHubUser) (fetch : Option SiteVerify) (nowMs : Int)
    (subnetRegistrationCount : Nat) : SybilScoreResult × Bool :=
  let clientIp := resolveClientIp user req
  let subnet := extractSubnet clientIp
  let profile := resolveProfile user github
  let botScore := resolveBotScore req
  let (turnstileValid, turnstileReasons) :=
    checkTurnstile botScore (resolveTurnstileToken user req) fetch
  let isSubnetExceeded : Bool := maxRegistrationsPerSubnet ≤ subnetRegistrationCount
  let cfProps := req.bind SybilRequestInput.cf
  let asn := (cfProps.bind CfPropertiesLike.asn).or
    ((extractHeaderValue req "cf-ray-asn").map .text)
  let isDatacenter := isDatacenterAsn asn
  let isTor : Bool := cfProps.bind CfPropertiesLike.isTor = some true ∨
    cfProps.bind CfPropertiesLike.country = some "T1"
  let email := trim (profile.email.getD "")
  let isDisposable := isDisposableEmail email
  let isEmailVerified := user.isEmailVerified.getD true
  let accountAgeDays := accountAgeDays nowMs (createdAtMs nowMs profile.createdAt)
  let isMatureAge := accountAgeDays.above sybilMinAccountAgeDays
  let publicRepos := (profile.publicRepos.getD (.finite 0)).max0
  let contributionsCount := (profile.contributions.getD (.finite 0)).max0
  let hasActivity := publicRepos.above sybilMinActivityRepos ||
    contributionsCount.above sybilMinActivityContributions
  let reasons := turnstileReasons ++
    reason isSubnetExceeded ("IP velocity limit exceeded: " ++ toString subnetRegistrationCount ++
      " active registrations in " ++ subnet ++ " within 30 days") ++
    reason isDatacenter ("Datacenter ASN (" ++ ((asn.map Asn.display).getD "undefined") ++
      ") detected: elevated proxy risk") ++
    reason isTor "Tor exit node detected: anonymous proxy egress" ++
    reason isDisposable ("Disposable email domain rejected: " ++ email) ++
    reason (!isEmailVerified) "Primary email is unverified" ++
    reason (!isMatureAge)
      ("GitHub account age (" ++ accountAgeDays.text ++ "d) is not > 30 days") ++
    reason (!hasActivity) ("GitHub activity insufficient: " ++ publicRepos.text ++
      " public repos (requires >5) and " ++ contributionsCount.text ++
      " contributions (requires >20)")
  let score : Int := 0
  let score := if turnstileValid then score + 20 else score
  let score := if isSubnetExceeded then score else score + 20
  let score := if isDatacenter then score - 10 else score
  let score := if isTor then score - 10 else score
  let score := if isDisposable then score else score + 20
  let score := if isEmailVerified then score else score - 10
  let score := if isMatureAge then score + 20 else score
  let score := if hasActivity then score + 20 else score
  let score := if !turnstileValid then 0 else if isDisposable then min score 20 else score
  let score := clampScore score
  let (tier, passed) := decideTier turnstileValid isDisposable (isMatureAge && hasActivity)
    isSubnetExceeded score
  let flags :=
    { isVpnOrProxy := isDatacenter, isTor, isDisposableEmail := isDisposable,
      rateLimitExceeded := isSubnetExceeded, turnstileFailed := !turnstileValid,
      ipVelocityExceeded := isSubnetExceeded, disposableEmail := isDisposable,
      youngAccount := !isMatureAge, lowActivity := !hasActivity }
  let details :=
    { turnstileValid, turnstileScore := botScore, subnetRegistrationCount, accountAgeDays,
      publicRepos, contributionsCount, email, ip := clientIp, assessmentScore := score }
  ({ score, passed, tier, riskLevel := riskLevel score, reasons, flags, ip := clientIp, details },
    passed && !isSubnetExceeded)

/-! ## Either engine -/

/-- A call of an engine, with what the services it asks answer. -/
inductive Assessment where
  | evaluateAntiSybil (input : AntiSybilInput) (options : EvaluateAntiSybilOptions)
  | calculateSybilScore (user : SybilUserInput) (req : Option SybilRequestInput)
      (github : Option GitHubUser) (fetch : Option SiteVerify)

namespace Assessment

def subnet : Assessment → String
  | evaluateAntiSybil input _ => extractSubnet input.ip
  | calculateSybilScore user req _ _ => extractSubnet (resolveClientIp user req)

/-- The tier behind a count, and whether the registration is recorded. -/
def conclude (nowMs : Int) (count : Nat) : Assessment → UserTier × Bool
  | evaluateAntiSybil input options =>
    let (assessment, records) := concludeAntiSybil input options nowMs count
    (assessment.tier, records)
  | calculateSybilScore user req github fetch =>
    let (result, records) := concludeSybilScore user req github fetch nowMs count
    (result.tier, records)

/-- The assessment records a registration that passes. -/
def RecordsOnPass : Assessment → Prop
  | evaluateAntiSybil _ options => options.recordOnPass.getD true = true
  | calculateSybilScore _ _ _ _ => True

instance : DecidablePred RecordsOnPass
  | evaluateAntiSybil _ _ => inferInstanceAs (Decidable (_ = _))
  | calculateSybilScore _ _ _ _ => inferInstanceAs (Decidable True)

variable {assessment : Assessment} {nowMs : Int} {count : Nat}

/-- A builder found room in the subnet. -/
theorem room_of_builder (builder : (assessment.conclude nowMs count).1 = .builder) :
    count < maxRegistrationsPerSubnet := by
  cases assessment with
  | evaluateAntiSybil input options =>
    exact not_le.mp (of_decide_eq_false (decideTier_builder builder).2)
  | calculateSybilScore user req github fetch =>
    exact not_le.mp (of_decide_eq_false (decideTier_builder builder).2)

/-- A builder is recorded. -/
theorem records_of_builder (onPass : assessment.RecordsOnPass)
    (builder : (assessment.conclude nowMs count).1 = .builder) :
    (assessment.conclude nowMs count).2 = true := by
  cases assessment with
  | evaluateAntiSybil input options =>
    exact Bool.and_eq_true_iff.mpr ⟨(decideTier_builder builder).1, onPass⟩
  | calculateSybilScore user req github fetch =>
    obtain ⟨passed, room⟩ := decideTier_builder builder
    exact Bool.and_eq_true_iff.mpr ⟨passed, by rw [room]; rfl⟩

end Assessment

end Engines

end KeyCollective.Sybil
