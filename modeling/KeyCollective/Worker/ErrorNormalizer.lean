import KeyCollective.Lib.Expression
import KeyCollective.Proxy.Headers
import KeyCollective.TextDecoder

/-!
# Error normalizer

What a provider says of an error is not passed on as it is. Keys, credentials, addresses and
the names of cloud projects are replaced by marks, in whole texts and in streams, and only
listed headers are forwarded.
-/

namespace KeyCollective.ErrorNormalizer

open Redaction

/-! ## The expressions -/

/-- `\w`. -/
def isWord (c : Char) : Bool := c.isAlphanum || c == '_'

/-- `[0-9a-f]` with the flag `i`. -/
def isHexDigit (c : Char) : Bool := c.isDigit || "abcdefABCDEF".toList.contains c

def literal (s : String) : List (Piece Char) := s.toList.map fun c => exactly 1 (· == c)

/-- A text with the flag `i`. -/
def folded (s : String) : List (Piece Char) :=
  s.toList.map fun c => exactly 1 fun d => d == c.toLower || d == c.toUpper

def gcpProjectPattern : List (Piece Char) := folded "projects/" ++ [between 6 12 Char.isDigit]

def billingAccountPattern : List (Piece Char) :=
  folded "billingAccounts/" ++ [atLeast 6 fun c => c.isAlphanum || c == '-']

/-- Between two edges of a word. -/
def cloudTracePattern : List (Piece Char) :=
  [exactly 32 isHexDigit, exactly 1 (· == '/'), atLeast 1 Char.isDigit]

/-- The first alternative of `SECRET_REGEX`. -/
def secretKeyPattern : List (Piece Char) := literal "sk-" ++ [atLeast 20 Char.isAlphanum]

/-- The second. -/
def bearerPattern : List (Piece Char) :=
  literal "Bearer" ++ [atLeast 1 isWhiteSpace,
    atLeast 1 fun c => c.isAlphanum || "-._~+/".toList.contains c]

/-- Between two edges of a word. -/
def ipPattern : List (Piece Char) :=
  [between 1 3 Char.isDigit, exactly 1 (· == '.'), between 1 3 Char.isDigit, exactly 1 (· == '.'),
    between 1 3 Char.isDigit, exactly 1 (· == '.'), between 1 3 Char.isDigit]

def secretRegex : Pattern Char := (free secretKeyPattern).or (free bearerPattern)

def ipRegex : Pattern Char := bounded isWord ipPattern

/-- A mark in brackets. -/
def marked (name : String) : List Char := '[' :: name.toList ++ [']']

/-! ## Texts -/

/-- `.replace(SECRET_REGEX, …).replace(IP_REGEX, …)`. -/
def hideSecrets (text : List Char) : List Char :=
  replaceAll ipRegex (marked "REDACTED_IP")
    (replaceAll secretRegex (marked "REDACTED_SECRET") text)

def hideCloud (text : List Char) : List Char :=
  replaceAll (bounded isWord cloudTracePattern) (marked "TRACE_REDACTED")
    (replaceAll (free billingAccountPattern) (marked "BILLING_REDACTED")
      (replaceAll (free gcpProjectPattern) (marked "PROJECT_REDACTED") text))

def sanitizeErrorMessage (message : String) : String :=
  if message.isEmpty then "" else String.ofList (hideSecrets message.toList)

def sanitizeErrorBody (raw : String) : String := String.ofList (hideSecrets (hideCloud raw.toList))

/-! ## Streams -/

/-- What `createErrorSanitizerTransform` enqueues for the chunks and at the end. -/
def sanitizeStream (chunks : List Bytes) : List Bytes :=
  let (texts, decoder) := TextDecoder.decodeChunks {} chunks
  let remaining := decoder.decodeRest
  texts.map (fun text => stringToBytes (sanitizeErrorBody (String.ofList text))) ++
    if remaining.isEmpty then []
    else [stringToBytes (sanitizeErrorBody (String.ofList remaining))]

/-! ## Characters of no match -/

/-- A match may have the character in it. -/
def inMatch (c : Char) : Bool := isWord c || isWhiteSpace c || "-.~+/".toList.contains c

def Foreign (c : Char) : Prop := inMatch c = false

theorem isWord_of_isAlphanum {c : Char} (alphanum : c.isAlphanum = true) : isWord c = true := by
  simp [isWord, alphanum]

theorem isWord_of_isDigit {c : Char} (digit : c.isDigit = true) : isWord c = true := by
  simp [isWord, Char.isAlphanum, digit]

theorem isWord_of_isHexDigit {c : Char} (hex : isHexDigit c = true) : isWord c = true := by
  rw [isHexDigit, Bool.or_eq_true] at hex
  obtain digit | letter := hex
  · exact isWord_of_isDigit digit
  · have letters : "abcdefABCDEF".toList.all isWord = true := by decide
    exact List.all_eq_true.mp letters c (List.contains_iff_mem.mp letter)

theorem inMatch_of_isWord {c : Char} (word : isWord c = true) : inMatch c = true := by
  simp [inMatch, word]

/-- All that a piece takes may be in a match. -/
def Inside (pieces : List (Piece Char)) : Prop :=
  ∀ piece ∈ pieces, ∀ c, piece.ok c = true → inMatch c = true

theorem Inside.append {pieces later : List (Piece Char)} (inside : Inside pieces)
    (rest : Inside later) : Inside (pieces ++ later) := by
  intro piece mem
  obtain here | there := List.mem_append.mp mem
  · exact inside piece here
  · exact rest piece there

theorem Inside.avoided {pieces : List (Piece Char)} (inside : Inside pieces) (c : Char)
    (other : Foreign c) : ∀ piece ∈ pieces, piece.ok c = false := by
  intro piece mem
  by_contra okay
  have matched := inside piece mem c (Bool.not_eq_false _ ▸ okay)
  rw [other] at matched
  cases matched

theorem inside_literal {s : String} (all : s.toList.all inMatch = true) :
    Inside (literal s) := by
  intro piece mem d okay
  obtain ⟨c, listed, rfl⟩ := List.mem_map.mp mem
  obtain rfl : d = c := eq_of_beq okay
  exact List.all_eq_true.mp all d listed

theorem inside_folded {s : String}
    (all : (s.toList.all fun c => inMatch c.toLower && inMatch c.toUpper) = true) :
    Inside (folded s) := by
  intro piece mem d okay
  obtain ⟨c, listed, rfl⟩ := List.mem_map.mp mem
  have either : (d == c.toLower || d == c.toUpper) = true := okay
  have both := (Bool.and_eq_true _ _).mp (List.all_eq_true.mp all c listed)
  obtain lower | upper := (Bool.or_eq_true _ _).mp either
  · exact eq_of_beq lower ▸ both.1
  · exact eq_of_beq upper ▸ both.2

theorem inside_gcpProject : Inside gcpProjectPattern := by
  apply Inside.append (inside_folded (by decide))
  intro piece mem c okay
  obtain rfl := List.mem_singleton.mp mem
  exact inMatch_of_isWord (isWord_of_isDigit okay)

theorem inside_billingAccount : Inside billingAccountPattern := by
  apply Inside.append (inside_folded (by decide))
  intro piece mem c okay
  obtain rfl := List.mem_singleton.mp mem
  have either : (c.isAlphanum || c == '-') = true := okay
  obtain alphanum | dash := (Bool.or_eq_true _ _).mp either
  · exact inMatch_of_isWord (isWord_of_isAlphanum alphanum)
  · exact eq_of_beq dash ▸ by decide

theorem inside_cloudTrace : Inside cloudTracePattern := by
  simp only [Inside, cloudTracePattern, List.forall_mem_cons]
  refine ⟨fun c okay => ?_, fun c okay => ?_, fun c okay => ?_, List.forall_mem_nil _⟩
  · exact inMatch_of_isWord (isWord_of_isHexDigit okay)
  · exact eq_of_beq okay ▸ by decide
  · exact inMatch_of_isWord (isWord_of_isDigit okay)

theorem inside_secretKey : Inside secretKeyPattern := by
  apply Inside.append (inside_literal (by decide))
  intro piece mem c okay
  obtain rfl := List.mem_singleton.mp mem
  exact inMatch_of_isWord (isWord_of_isAlphanum okay)

theorem inside_bearer : Inside bearerPattern := by
  apply Inside.append (inside_literal (by decide))
  simp only [Inside, List.forall_mem_cons]
  refine ⟨fun c okay => ?_, fun c okay => ?_, List.forall_mem_nil _⟩
  · have blank : isWhiteSpace c = true := okay
    simp [inMatch, blank]
  · have either : (c.isAlphanum || "-._~+/".toList.contains c) = true := okay
    obtain alphanum | mark := (Bool.or_eq_true _ _).mp either
    · exact inMatch_of_isWord (isWord_of_isAlphanum alphanum)
    · have marks : "-._~+/".toList.all inMatch = true := by decide
      exact List.all_eq_true.mp marks c (List.contains_iff_mem.mp mark)

theorem inside_ip : Inside ipPattern := by
  have digit : ∀ c, Char.isDigit c = true → inMatch c = true :=
    fun c okay => inMatch_of_isWord (isWord_of_isDigit okay)
  have dot : ∀ c, (c == '.') = true → inMatch c = true :=
    fun c okay => eq_of_beq okay ▸ by decide
  simp only [Inside, ipPattern, List.forall_mem_cons]
  exact ⟨digit, dot, digit, dot, digit, dot, digit, List.forall_mem_nil _⟩

/-! ## The passes -/

theorem free_kept {pieces : List (Piece Char)} (solid : Solid pieces) (inside : Inside pieces) :
    Free (free pieces) Foreign :=
  free_free solid fun c other => inside.avoided c other

theorem kept_word {pieces : List (Piece Char)} (solid : Solid pieces) (some_piece : pieces ≠ [])
    (starts : StartsInWord isWord pieces) (inside : Inside pieces) :
    Kept (bounded isWord pieces) (bounded isWord pieces) Foreign := by
  apply bounded_kept solid some_piece starts fun c other => inside.avoided c other
  intro c other
  by_contra word
  have matched := inMatch_of_isWord (Bool.not_eq_false _ ▸ word)
  rw [other] at matched
  cases matched

theorem solid_gcpProject : Solid gcpProjectPattern := by decide

theorem solid_billingAccount : Solid billingAccountPattern := by decide

theorem solid_secretKey : Solid secretKeyPattern := by decide

theorem solid_bearer : Solid bearerPattern := by decide

theorem solid_ip : Solid ipPattern := by decide

theorem solid_cloudTrace : Solid cloudTracePattern := by decide

theorem kept_gcpProject (q : Pattern Char) : Kept (free gcpProjectPattern) q Foreign :=
  (free_kept solid_gcpProject inside_gcpProject).kept

theorem kept_billingAccount (q : Pattern Char) : Kept (free billingAccountPattern) q Foreign :=
  (free_kept solid_billingAccount inside_billingAccount).kept

theorem kept_secret (q : Pattern Char) : Kept secretRegex q Foreign :=
  ((free_kept solid_secretKey inside_secretKey).or (free_kept solid_bearer inside_bearer)).kept

theorem kept_cloudTrace :
    Kept (bounded isWord cloudTracePattern) (bounded isWord cloudTracePattern) Foreign := by
  apply kept_word solid_cloudTrace (List.cons_ne_nil _ _) _ inside_cloudTrace
  rintro _ ⟨⟩ c okay
  exact isWord_of_isHexDigit okay

theorem starts_ip : StartsInWord isWord ipPattern := by
  rintro _ ⟨⟩ c okay
  exact isWord_of_isDigit okay

theorem kept_ip : Kept ipRegex ipRegex Foreign :=
  kept_word solid_ip (List.cons_ne_nil _ _) starts_ip inside_ip

/-- Brackets are in no match. -/
theorem isMark {p : Pattern Char} {name : List Char} (absent : Absent p (some '[') name) :
    IsMark p Foreign '[' name ']' := ⟨rfl, rfl, absent⟩

/-! ## What is not there -/

/-- No key, no credential and no address is left. -/
structure Hidden (text : List Char) : Prop where
  secret : Absent secretRegex none text
  ip : Absent ipRegex none text

theorem hideSecrets_hidden (text : List Char) : Hidden (hideSecrets text) where
  secret :=
    (kept_secret ipRegex).absent_later (isMark (by decide))
      ((kept_secret secretRegex).absent_replaceAll (isMark (by decide)) text)
  ip := kept_ip.absent_replaceAll (isMark (by decide)) _

/-- What is hidden from the cloud stays hidden when secrets are. -/
theorem hideSecrets_hideCloud (text : List Char) :
    Absent (free gcpProjectPattern) none (hideSecrets (hideCloud text)) ∧
      Absent (free billingAccountPattern) none (hideSecrets (hideCloud text)) := by
  constructor
  · apply (kept_gcpProject ipRegex).absent_later (isMark (by decide))
    apply (kept_gcpProject secretRegex).absent_later (isMark (by decide))
    apply (kept_gcpProject (bounded isWord cloudTracePattern)).absent_later (isMark (by decide))
    apply (kept_gcpProject (free billingAccountPattern)).absent_later (isMark (by decide))
    exact (kept_gcpProject (free gcpProjectPattern)).absent_replaceAll (isMark (by decide)) text
  · apply (kept_billingAccount ipRegex).absent_later (isMark (by decide))
    apply (kept_billingAccount secretRegex).absent_later (isMark (by decide))
    apply (kept_billingAccount (bounded isWord cloudTracePattern)).absent_later
      (isMark (by decide))
    exact (kept_billingAccount (free billingAccountPattern)).absent_replaceAll
      (isMark (by decide)) _

/-- A part of the text is spelt by the expression. -/
def Mentions (pieces : List (Piece Char)) (text : String) : Prop :=
  ∃ before part later, text.toList = before ++ (part ++ later) ∧ Spells pieces part

/-- A part that no character of a word stands beside. -/
def MentionsWord (pieces : List (Piece Char)) (text : String) : Prop :=
  ∃ before part later, text.toList = before ++ (part ++ later) ∧ Spells pieces part ∧
    before.getLast?.any isWord = false ∧ later.head?.any isWord = false

theorem not_mentions {pieces : List (Piece Char)} {text : List Char}
    (absent : Absent (free pieces) none text) (solid : Solid pieces) (some_piece : pieces ≠ [])
    (apart : Apart pieces) : ¬Mentions pieces (String.ofList text) := by
  rintro ⟨before, part, later, cut, spells⟩
  rw [String.toList_ofList] at cut
  exact absent.not_spells solid some_piece apart cut spells

theorem exact_literal (s : String) : ∀ piece ∈ literal s, piece.most = some piece.least := by
  intro piece mem
  obtain ⟨c, -, rfl⟩ := List.mem_map.mp mem
  rfl

theorem exact_folded (s : String) : ∀ piece ∈ folded s, piece.most = some piece.least := by
  intro piece mem
  obtain ⟨c, -, rfl⟩ := List.mem_map.mp mem
  rfl

theorem isWhiteSpace_of_isAlphanum {c : Char} (alphanum : c.isAlphanum = true) :
    isWhiteSpace c = false := by
  have range : 48 ≤ c.toNat ∧ c.toNat ≤ 122 := by
    simp only [Char.isAlphanum, Char.isAlpha, Char.isUpper, Char.isLower, Char.isDigit, ge_iff_le,
      Bool.or_eq_true, Bool.and_eq_true, decide_eq_true_eq, UInt32.le_iff_toNat_le] at alphanum
    change (((65 ≤ c.toNat ∧ c.toNat ≤ 90) ∨ (97 ≤ c.toNat ∧ c.toNat ≤ 122)) ∨
      (48 ≤ c.toNat ∧ c.toNat ≤ 57)) at alphanum
    omega
  simp only [isWhiteSpace, List.mem_cons, List.not_mem_nil, or_false, Bool.decide_or]
  simp
  omega

theorem apart_bearer : Apart bearerPattern := by
  apply Apart.after_exact (exact_literal "Bearer")
  refine ⟨.inr fun c okay => ?_, trivial⟩
  have either : (c.isAlphanum || "-._~+/".toList.contains c) = true := okay
  obtain alphanum | mark := (Bool.or_eq_true _ _).mp either
  · exact isWhiteSpace_of_isAlphanum alphanum
  · have marks : ("-._~+/".toList.all fun d => !isWhiteSpace d) = true := by decide
    have other := List.all_eq_true.mp marks c (List.contains_iff_mem.mp mark)
    exact (Bool.not_eq_true' _).mp other

theorem apart_ip : Apart ipPattern := by
  have differ : ∀ c, (c == '.') = true → Char.isDigit c = false :=
    fun c okay => eq_of_beq okay ▸ by decide
  exact ⟨.inr differ, .inl rfl, .inr differ, .inl rfl, .inr differ, .inl rfl, trivial⟩

theorem Hidden.not_mentions {text : List Char} (hidden : Hidden text) :
    ¬Mentions secretKeyPattern (String.ofList text) ∧ ¬Mentions bearerPattern (String.ofList text) ∧
      ¬MentionsWord ipPattern (String.ofList text) := by
  obtain ⟨key, bearer⟩ := hidden.secret.or
  refine ⟨?_, ?_, ?_⟩
  · exact ErrorNormalizer.not_mentions key solid_secretKey (by decide)
      (Apart.after_exact (exact_literal _) trivial)
  · exact ErrorNormalizer.not_mentions bearer solid_bearer (by decide) apart_bearer
  · rintro ⟨before, part, later, cut, spells, left, right⟩
    rw [String.toList_ofList] at cut
    refine hidden.ip.not_word solid_ip (List.cons_ne_nil _ _) apart_ip starts_ip ?_ cut left right
      spells
    rintro _ ⟨⟩ c okay
    exact isWord_of_isDigit okay

/-- Whatever a provider answers, what is passed on has no key, no bearer token, no address, no
cloud project and no billing account in it. -/
theorem sanitizeErrorBody_clean (raw : String) :
    ¬Mentions secretKeyPattern (sanitizeErrorBody raw) ∧
      ¬Mentions bearerPattern (sanitizeErrorBody raw) ∧
      ¬MentionsWord ipPattern (sanitizeErrorBody raw) ∧
      ¬Mentions gcpProjectPattern (sanitizeErrorBody raw) ∧
      ¬Mentions billingAccountPattern (sanitizeErrorBody raw) := by
  obtain ⟨project, billing⟩ := hideSecrets_hideCloud raw.toList
  obtain ⟨key, bearer, ip⟩ := (hideSecrets_hidden (hideCloud raw.toList)).not_mentions
  refine ⟨key, bearer, ip, ?_, ?_⟩
  · exact not_mentions project solid_gcpProject (by decide)
      (Apart.after_exact (exact_folded _) trivial)
  · exact not_mentions billing solid_billingAccount (by decide)
      (Apart.after_exact (exact_folded _) trivial)

/-- The message of an error has no key, no bearer token and no address in it, and hiding them
once more changes nothing. -/
theorem sanitizeErrorMessage_clean (message : String) :
    ¬Mentions secretKeyPattern (sanitizeErrorMessage message) ∧
      ¬Mentions bearerPattern (sanitizeErrorMessage message) ∧
      ¬MentionsWord ipPattern (sanitizeErrorMessage message) ∧
      sanitizeErrorMessage (sanitizeErrorMessage message) = sanitizeErrorMessage message := by
  have hidden : ∃ text, sanitizeErrorMessage message = String.ofList text ∧ Hidden text := by
    unfold sanitizeErrorMessage
    split
    · exact ⟨[], rfl, trivial, trivial⟩
    · exact ⟨_, rfl, hideSecrets_hidden _⟩
  obtain ⟨text, eq, hidden⟩ := hidden
  obtain ⟨key, bearer, ip⟩ := hidden.not_mentions
  rw [eq]
  refine ⟨key, bearer, ip, ?_⟩
  have same : hideSecrets text = text := by
    rw [hideSecrets, replaceAll, replaceAll, hidden.secret.replaceFrom, hidden.ip.replaceFrom]
  unfold sanitizeErrorMessage
  split
  case isTrue empty => exact (String.isEmpty_iff.mp empty).symm
  case isFalse => rw [String.toList_ofList, same]

/-! ## A stream and its cuts -/

def hideAll (text : List Char) : List Char := hideSecrets (hideCloud text)

/-- Both sides of a character that is in no match are sanitized each by itself. -/
theorem hideAll_cut {c : Char} (other : Foreign c) (u v : List Char) :
    hideAll (u ++ c :: v) = hideAll u ++ c :: hideAll v := by
  simp only [hideAll, hideSecrets, hideCloud, (kept_gcpProject _).replaceAll_cut _ other,
    (kept_billingAccount _).replaceAll_cut _ other, kept_cloudTrace.replaceAll_cut _ other,
    (kept_secret _).replaceAll_cut _ other, kept_ip.replaceAll_cut _ other]

theorem hideAll_cons {c : Char} (other : Foreign c) (v : List Char) :
    hideAll (c :: v) = c :: hideAll v := hideAll_cut other [] v

theorem hideAll_snoc {text : List Char} (closed : ∀ c, text.getLast? = some c → Foreign c)
    (later : List Char) : hideAll (text ++ later) = hideAll text ++ hideAll later := by
  obtain rfl | ⟨start, c, rfl⟩ := List.eq_nil_or_concat text
  · rfl
  · rw [List.concat_eq_append] at closed ⊢
    have other := closed c (by rw [List.getLast?_concat])
    have alone := hideAll_cut other start []
    rw [List.append_assoc, List.singleton_append, hideAll_cut other, alone, List.append_assoc]
    rfl

theorem hideAll_flatten {texts : List (List Char)}
    (closed : ∀ text ∈ texts.dropLast, ∀ c, text.getLast? = some c → Foreign c) :
    hideAll texts.flatten = (texts.map hideAll).flatten := by
  induction texts with
  | nil => rfl
  | cons text rest ih =>
    cases rest with
    | nil => simp
    | cons next more =>
      rw [List.dropLast_cons_cons] at closed
      rw [List.flatten_cons, hideAll_snoc (closed text List.mem_cons_self),
        ih fun t mem => closed t (List.mem_cons_of_mem _ mem)]
      rfl

theorem stringToBytes_append (text later : List Char) :
    stringToBytes (String.ofList (text ++ later)) =
      stringToBytes (String.ofList text) ++ stringToBytes (String.ofList later) := by
  simp only [stringToBytes, String.toList_ofList, Utf8.encode, List.flatMap_append]

theorem stringToBytes_flatten (texts : List (List Char)) :
    (texts.map fun text => stringToBytes (String.ofList text)).flatten =
      stringToBytes (String.ofList texts.flatten) := by
  induction texts with
  | nil => rfl
  | cons text rest ih =>
    rw [List.map_cons, List.flatten_cons, List.flatten_cons, ih, stringToBytes_append]

theorem decodeRest_cases (decoder : TextDecoder) :
    decoder.decodeRest = [] ∨ decoder.decodeRest = ['\uFFFD'] := by
  unfold TextDecoder.decodeRest TextDecoder.serialize Utf8.finish
  cases decoder.pending.isEmpty <;> cases decoder.bomSeen <;> simp [dropMark]

theorem sanitizeErrorBody_ofList (text : List Char) :
    sanitizeErrorBody (String.ofList text) = String.ofList (hideAll text) := by
  rw [sanitizeErrorBody, String.toList_ofList]
  rfl

/-- Where every chunk but the last ends in a character of no match, a stream is sanitized as
the whole body is. A key that is cut in two is not hidden. -/
theorem sanitizeStream_whole (chunks : List Bytes)
    (closed : ∀ text ∈ (TextDecoder.decodeChunks {} chunks).1.dropLast,
      ∀ c, text.getLast? = some c → Foreign c) :
    (sanitizeStream chunks).flatten =
      stringToBytes (sanitizeErrorBody (decodeText chunks.flatten)) := by
  have body : sanitizeErrorBody (decodeText chunks.flatten) =
      String.ofList (hideAll (streamText chunks)) := by
    rw [streamText_eq]
    rfl
  rw [sanitizeStream, body, streamText]
  generalize TextDecoder.decodeChunks {} chunks = read at closed ⊢
  obtain ⟨texts, decoder⟩ := read
  have pieces : (texts.map fun text =>
      stringToBytes (sanitizeErrorBody (String.ofList text))).flatten =
      stringToBytes (String.ofList (hideAll texts.flatten)) := by
    rw [hideAll_flatten closed, ← stringToBytes_flatten, List.map_map]
    simp only [sanitizeErrorBody_ofList, Function.comp_def]
  simp only [List.flatten_append, pieces]
  obtain none_left | broken := decodeRest_cases decoder
  · simp only [none_left, List.isEmpty_nil, if_true, List.flatten_nil, List.append_nil]
  · have other : Foreign '\uFFFD' := by unfold Foreign; decide
    have last := hideAll_cut other texts.flatten []
    rw [← hideAll_cons other] at last
    simp only [broken, List.isEmpty_cons, Bool.false_eq_true, if_false, List.flatten_singleton,
      sanitizeErrorBody_ofList, last, stringToBytes_append]

/-- An address that starts with a chunk. -/
def addressChunks : List Bytes := [stringToBytes "from \"", stringToBytes "10.0.0.1\""]

theorem sanitizeStream_whole_address :
    (sanitizeStream addressChunks).flatten =
      stringToBytes (sanitizeErrorBody (decodeText addressChunks.flatten)) := by
  apply sanitizeStream_whole
  have texts : (TextDecoder.decodeChunks {} addressChunks).1.dropLast = ["from \"".toList] := by
    decide
  rw [texts]
  intro text mem c last
  obtain rfl := List.mem_singleton.mp mem
  cases last
  unfold Foreign
  decide

end KeyCollective.ErrorNormalizer
