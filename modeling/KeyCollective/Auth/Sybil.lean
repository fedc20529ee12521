import KeyCollective.Date
import KeyCollective.Lib.IndexedMap
import KeyCollective.Number
import KeyCollective.Quota.Limits

/-!
# Anti-Sybil assessment

Two engines grade a registration: `evaluateAntiSybil` and `calculateSybilScore`. Each waits
for its outside signals, asks a tracker how many registrations the subnet had in thirty days,
and from there runs to its end without waiting: it grades the signals and records the
registration. What an engine reads is in the camel-case spelling.
-/

namespace KeyCollective.Sybil

open Quota (UserTier)

def builderMinAccountAgeDays : ℚ := 30
def builderMinPublicRepos : ℚ := 1
def builderMinContributions : ℚ := 5

def sybilScoreBuilderThreshold : Int := 65
def sybilScoreProbationaryThreshold : Int := 40

def subnetVelocityWindowMs : Int := 30 * 24 * 60 * 60 * 1000
def maxRegistrationsPerSubnet : Nat := 1

def sybilMinAccountAgeDays : ℚ := 30
def sybilMinActivityRepos : ℚ := 5
def sybilMinActivityContributions : ℚ := 20

def disposableEmailDomains : List String :=
  ["temp-mail.org", "tempmail.com", "guerrillamail.com", "guerrillamail.net",
    "guerrillamail.org", "mailinator.com", "10minutemail.com", "10minutemail.net",
    "throwawaymail.com", "trashmail.com", "trashmail.net", "trashmail.org", "yopmail.com",
    "yopmail.fr", "yopmail.net", "sharklasers.com", "getairmail.com", "dispostable.com",
    "burnermail.io", "fakeinbox.com", "maildrop.cc", "mohmal.com", "fakemailgenerator.com",
    "crazymailing.com", "mytemp.email", "emailondeck.com", "tempail.com", "inboxkitten.com",
    "generator.email", "discard.email"]

def datacenterAsns : List ℚ :=
  [16509, 14618, 24940, 14061, 16276, 63949, 15169, 8075, 31898, 20473, 45102, 200130]

/-! ## Subnets, addresses and networks -/

def splitOn (separator : Char) (s : String) : List String :=
  (s.toList.splitOn separator).map String.ofList

/-- A number from 0 to 255. -/
def inOctet (x : Number) : Bool := x.atLeast 0 ∧ ¬x.above 255

/-- A /24 subnet of an IPv4 address, a /48 prefix of an IPv6 address. -/
def extractSubnet [NumberReader] [NumberText] (ip : String) : String :=
  let trimmed := trim ip
  let other :=
    if includes trimmed ":" then
      match (splitOn ':' trimmed).filter (· ≠ "") with
      | s0 :: s1 :: s2 :: _ => s0 ++ ":" ++ s1 ++ ":" ++ s2 ++ "::/48"
      | _ => trimmed ++ "::/48"
    else trimmed ++ "/24"
  if ip = "" then "0.0.0.0/24"
  else match (splitOn '.' trimmed).map NumberReader.toNumber with
    | [p0, p1, p2, p3] =>
      if inOctet p0 ∧ inOctet p1 ∧ inOctet p2 ∧ inOctet p3 then
        p0.text ++ "." ++ p1.text ++ "." ++ p2.text ++ ".0/24"
      else other
    | _ => other

/-- `email.slice(email.lastIndexOf("@") + 1)`. -/
def afterLastAt (email : String) : Option String :=
  if '@' ∈ email.toList then
    some (String.ofList (email.toList.reverse.takeWhile (· ≠ '@')).reverse)
  else none

def isDisposableEmail [Host] (email : String) : Bool :=
  match afterLastAt email with
  | none => true
  | some domain =>
    let fullDomain := trim (Host.toLowerCase domain)
    let parts := splitOn '.' fullDomain
    fullDomain = "" ∨ fullDomain ∈ disposableEmailDomains ∨
      (List.range' 1 (parts.length - 2)).any fun i =>
        ".".intercalate (parts.drop i) ∈ disposableEmailDomains

inductive Asn where
  | number (value : Number)
  | text (s : String)
deriving DecidableEq

def Asn.display [NumberText] : Asn → String
  | .number value => value.text
  | .text s => s

/-- A text is read for its digits. -/
def isDatacenterAsn [NumberReader] : Option Asn → Bool
  | none => false
  | some asn =>
    let numericAsn := match asn with
      | .number value => value
      | .text s => NumberReader.toNumber (String.ofList (s.toList.filter Char.isDigit))
    match numericAsn with
    | .finite value => value ∈ datacenterAsns
    | _ => false

/-! ## The tracker -/

structure SubnetRegistrations where
  subnet : String
  timestamps : List Int
deriving DecidableEq

abbrev InMemorySubnetTracker := IndexedMap SubnetRegistrations.subnet

namespace InMemorySubnetTracker

def timestampsOf (tracker : InMemorySubnetTracker) (subnet : String) : List Int :=
  ((tracker.get? subnet).map SubnetRegistrations.timestamps).getD []

def active (windowMs nowMs : Int) (timestamps : List Int) : List Int :=
  timestamps.filter (nowMs - windowMs < ·)

/-- The count, and the tracker without the registrations that are too old to count. -/
def getSubnetRegistrationCount (tracker : InMemorySubnetTracker) (subnet : String)
    (windowMs nowMs : Int) : Nat × InMemorySubnetTracker :=
  let timestamps := tracker.timestampsOf subnet
  let active := active windowMs nowMs timestamps
  if timestamps.length = 0 then (0, tracker)
  else if active.length ≠ timestamps.length then
    (active.length,
      if 0 < active.length then tracker.set ⟨subnet, active⟩ else tracker.delete subnet)
  else (active.length, tracker)

def recordRegistration (tracker : InMemorySubnetTracker) (subnet : String) (timestamp : Int) :
    InMemorySubnetTracker :=
  tracker.set ⟨subnet, tracker.timestampsOf subnet ++ [timestamp]⟩

variable (tracker : InMemorySubnetTracker) (subnet other : String) (windowMs nowMs : Int)

theorem count_eq :
    (tracker.getSubnetRegistrationCount subnet windowMs nowMs).1 =
      (active windowMs nowMs (tracker.timestampsOf subnet)).length := by
  unfold getSubnetRegistrationCount
  simp only
  split
  case isTrue empty => rw [List.eq_nil_of_length_eq_zero empty]; rfl
  case isFalse => split <;> rfl

/-- A count leaves the registrations that count, and those of other subnets. -/
theorem timestampsOf_count :
    (tracker.getSubnetRegistrationCount subnet windowMs nowMs).2.timestampsOf other =
      if other = subnet then active windowMs nowMs (tracker.timestampsOf subnet)
      else tracker.timestampsOf other := by
  unfold getSubnetRegistrationCount
  simp only
  split
  case isTrue empty =>
    have none := List.eq_nil_of_length_eq_zero empty
    split
    case isTrue same => rw [same, none]; rfl
    case isFalse => rfl
  case isFalse =>
    split
    case isTrue =>
      split
      case isTrue =>
        rw [timestampsOf, IndexedMap.get?_set]
        by_cases same : other = subnet
        · simp [same]
        · simp [same, Ne.symm same, timestampsOf]
      case isFalse none =>
        have nothing : active windowMs nowMs (tracker.timestampsOf subnet) = [] :=
          List.eq_nil_of_length_eq_zero (by omega)
        rw [timestampsOf, IndexedMap.get?_delete, nothing]
        by_cases same : other = subnet
        · simp [same]
        · simp [same, timestampsOf]
    case isFalse all =>
      by_cases same : other = subnet
      · have kept := (List.filter_sublist.eq_of_length (not_not.mp all)).symm
        rw [if_pos same, same]
        exact kept
      · rw [if_neg same]

theorem timestampsOf_record (timestamp : Int) :
    (tracker.recordRegistration subnet timestamp).timestampsOf other =
      tracker.timestampsOf other ++ if other = subnet then [timestamp] else [] := by
  rw [timestampsOf, recordRegistration, IndexedMap.get?_set]
  by_cases same : other = subnet
  · simp [same]
  · simp [same, Ne.symm same, timestampsOf]

end InMemorySubnetTracker

/-! ## Turnstile -/

/-- What Cloudflare's `siteverify` does with a request. -/
inductive SiteVerify where
  | failed
  | refused (status : Nat)
  | answered (success : Bool) (errorCodes : Option (List String))
deriving DecidableEq

structure TurnstileVerificationResult where
  success : Bool
  errorCodes : Option (List String) := none
deriving DecidableEq

/-- Without a `fetch` nothing can be asked. -/
def verifyTurnstileToken (token secretKey : Option String) (fetch : Option SiteVerify) :
    TurnstileVerificationResult :=
  match token with
  | none => ⟨false, some ["missing-input-response"]⟩
  | some token =>
    let trimmedToken := trim token
    if trimmedToken = "" then ⟨false, some ["missing-input-response"]⟩
    else if trimmedToken = "1x0000000000000000000000000000000AA" ∨
        trimmedToken = "valid_turnstile_response" then
      ⟨true, none⟩
    else if trimmedToken = "2x0000000000000000000000000000000AB" ∨
        trimmedToken = "invalid_turnstile_response" then
      ⟨false, some ["invalid-input-response"]⟩
    else if trimmedToken = "3x0000000000000000000000000000000AC" then
      ⟨false, some ["timeout-or-duplicate"]⟩
    else if isFalsy secretKey then ⟨false, some ["missing-secret-key"]⟩
    else match fetch with
      | none => ⟨false, some ["missing-secret-key"]⟩
      | some .failed => ⟨false, some ["internal-verification-network-error"]⟩
      | some (.refused status) => ⟨false, some ["http-" ++ toString status]⟩
      | some (.answered success errorCodes) => ⟨success, errorCodes⟩

/-- `errorCodes?.join(", ") ?? "invalid response"`. -/
def TurnstileVerificationResult.codes (result : TurnstileVerificationResult) : String :=
  (result.errorCodes.map fun codes => ", ".intercalate codes).getD "invalid response"

/-! ## Grading -/

/-- `string | Date | number`. -/
inductive Moment where
  | date (value : Option Time)
  | number (value : Number)
  | text (s : String)
deriving DecidableEq

/-- The host takes the moment for false. -/
def Moment.isFalsy : Moment → Bool
  | .date _ => false
  | .number value => value = .finite 0 ∨ value = .nan
  | .text s => s = ""

def timeValue : Option Time → Number
  | some time => .finite time.ms
  | none => .nan

/-- A text that is no date counts as now. -/
def createdAtMs [DateParser] (nowMs : Int) : Option Moment → Number
  | some (.date value) => timeValue value
  | some (.number value) => value
  | some (.text s) => if parseDate s = none then .finite nowMs else timeValue (parseDate s)
  | none => .finite nowMs

/-- `Math.max(0, Math.floor((nowMs - createdAtMs) / (24 * 60 * 60 * 1000)))`. -/
def accountAgeDays (nowMs : Int) (createdAtMs : Number) : Number :=
  Number.max0 <| match createdAtMs with
    | .finite value => .finite ((nowMs - value) / 86400000).floor
    | .infinity => .negInfinity
    | .negInfinity => .infinity
    | .nan => .nan

def clampScore (score : Int) : Int := max 0 (min 100 score)

/-- The tier of a graded registration, and whether it passes. -/
def decideTier (turnstileValid isDisposable earned isSubnetExceeded : Bool) (score : Int) :
    UserTier × Bool :=
  if !turnstileValid || isDisposable || score < sybilScoreProbationaryThreshold then
    (.suspended, false)
  else if sybilScoreBuilderThreshold ≤ score ∧ earned ∧ !isSubnetExceeded then (.builder, true)
  else (.probationary, true)

theorem decideTier_builder {turnstileValid isDisposable earned isSubnetExceeded : Bool}
    {score : Int} (builder :
      (decideTier turnstileValid isDisposable earned isSubnetExceeded score).1 = .builder) :
    (decideTier turnstileValid isDisposable earned isSubnetExceeded score).2 = true ∧
      isSubnetExceeded = false := by
  unfold decideTier at builder ⊢
  split at builder
  case isTrue => cases builder
  case isFalse rejected =>
    rw [if_neg rejected]
    split at builder
    case isTrue room =>
      rw [if_pos room]
      exact ⟨rfl, by simpa using room.2.2⟩
    case isFalse => cases builder

inductive RiskLevel where
  | low
  | medium
  | high
  | critical
deriving DecidableEq

def riskLevel (score : Int) : RiskLevel :=
  if 80 ≤ score then .low
  else if 60 ≤ score then .medium
  else if 40 ≤ score then .high
  else .critical

end KeyCollective.Sybil
