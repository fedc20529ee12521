import KeyCollective.Host
import KeyCollective.Lib.Base64
import KeyCollective.Lib.Utf8
import KeyCollective.Url

/-!
# Bytes and texts

The text decoder drops a byte order mark at the start of what it decodes. A binary text is
base64, in either alphabet, or hexadecimal.
-/

namespace KeyCollective

abbrev Bytes := List UInt8

/-! ## UTF-8 -/

/-- `new TextEncoder().encode(str)`. -/
def stringToBytes (str : String) : Bytes := Utf8.encode str.toList

def dropMark : List Char → List Char
  | '\uFEFF' :: rest => rest
  | cs => cs

/-- `new TextDecoder().decode(bytes)`. -/
def decodeText (bytes : Bytes) : String :=
  String.ofList (dropMark ((Utf8.decode bytes).map fun c => c.getD '\uFFFD'))

/-- `new TextDecoder("utf-8", { fatal: true, ignoreBOM: false }).decode(bytes)`. None is the
`TypeError`. -/
def bytesToString (bytes : Bytes) : Option String :=
  ((Utf8.decode bytes).mapM id).map fun cs => String.ofList (dropMark cs)

/-- The text without a byte order mark at its start. -/
def unmarked (text : String) : String := String.ofList (dropMark text.toList)

theorem decodeText_stringToBytes (text : String) :
    decodeText (stringToBytes text) = unmarked text := by
  rw [decodeText, stringToBytes, Utf8.decode_encode, List.map_map, unmarked]
  congr 2
  exact List.map_id _

theorem bytesToString_stringToBytes (text : String) :
    bytesToString (stringToBytes text) = some (unmarked text) := by
  have whole : (text.toList.map some).mapM id = some text.toList := by
    induction text.toList with
    | nil => rfl
    | cons c rest ih =>
      rw [List.map_cons, List.mapM_cons, ih]
      rfl
  rw [bytesToString, stringToBytes, Utf8.decode_encode, whole]
  rfl

theorem dropMark_eq_self_iff (cs : List Char) : dropMark cs = cs ↔ cs.head? ≠ some '\uFEFF' := by
  unfold dropMark
  split
  · rename_i rest
    simp
  · rename_i other
    refine iff_of_true rfl fun marked => ?_
    obtain ⟨rest, eq⟩ := List.head?_eq_some_iff.mp marked
    exact other rest eq

theorem unmarked_eq_self_iff (text : String) :
    unmarked text = text ↔ text.toList.head? ≠ some '\uFEFF' := by
  rw [← dropMark_eq_self_iff, unmarked, ← String.toList_inj, String.toList_ofList]

/-- A mark is white space, so nothing that is trimmed starts with one. -/
theorem unmarked_trim (s : String) : unmarked (trim s) = trim s := by
  rw [unmarked_eq_self_iff, trim, String.toList_ofList]
  intro marked
  obtain ⟨rest, starts⟩ := List.head?_eq_some_iff.mp marked
  have shorter : trimChars ('\uFEFF' :: rest) = trimChars rest := by
    rw [trimChars, List.dropWhile_cons_of_pos (by decide), trimChars]
  have kept := trimChars_idempotent s.toList
  rw [starts, shorter] at kept
  have trimmed : (trimChars rest).length ≤ rest.length :=
    (List.rdropWhile_prefix isWhiteSpace (rest.dropWhile isWhiteSpace)).length_le.trans
      (List.dropWhile_suffix isWhiteSpace).length_le
  have longer := congrArg List.length kept
  rw [List.length_cons] at longer
  omega

/-! ## Base64 -/

def uint8ArrayToBase64 (bytes : Bytes) : String := String.ofList (Base64.encode bytes)

/-- A character of the URL alphabet as one of the standard alphabet. -/
def standardChar (c : Char) : Char := if c = '-' then '+' else if c = '_' then '/' else c

def urlChar (c : Char) : Char := if c = '+' then '-' else if c = '/' then '_' else c

/-- None is the `DecryptionError`. -/
def base64ToUint8Array (b64 : String) : Option Bytes :=
  Base64.decode (Base64.pad ((trimChars b64.toList).map standardChar))

def uint8ArrayToBase64Url (bytes : Bytes) : String :=
  String.ofList
    (((uint8ArrayToBase64 bytes).toList.map urlChar).rdropWhile fun c => c = '=')

def base64UrlToUint8Array (b64url : String) : Option Bytes := base64ToUint8Array b64url

theorem trimChars_plain {cs : List Char} (plain : ∀ c ∈ cs, isWhiteSpace c = false) :
    trimChars cs = cs := by
  have kept : ∀ {cs : List Char}, (∀ c ∈ cs, isWhiteSpace c = false) →
      cs.dropWhile isWhiteSpace = cs := by
    intro cs plain
    cases cs with
    | nil => rfl
    | cons c rest =>
      rw [List.dropWhile_cons, plain c List.mem_cons_self]
      rfl
  have reversed : ∀ c ∈ cs.reverse, isWhiteSpace c = false := fun c mem =>
    plain c (List.mem_reverse.mp mem)
  rw [trimChars, kept plain, kept reversed, List.reverse_reverse]

theorem isWhiteSpace_encode {bytes : Bytes} {c : Char} (mem : c ∈ Base64.encode bytes) :
    isWhiteSpace c = false := by
  have table : ∀ n < 64, isWhiteSpace (Base64.digit n) = false := by decide
  rcases Base64.mem_encode mem with ⟨n, small, rfl⟩ | rfl
  · exact table n small
  · decide

theorem trimChars_base64 (bytes : Bytes) :
    trimChars (uint8ArrayToBase64 bytes).toList = (uint8ArrayToBase64 bytes).toList := by
  rw [uint8ArrayToBase64, String.toList_ofList]
  exact trimChars_plain fun c mem => isWhiteSpace_encode mem

theorem base64ToUint8Array_uint8ArrayToBase64 (bytes : Bytes) :
    base64ToUint8Array (uint8ArrayToBase64 bytes) = some bytes := by
  have table : ∀ n < 64, standardChar (Base64.digit n) = Base64.digit n := by decide
  have standard : (Base64.encode bytes).map standardChar = Base64.encode bytes := by
    refine (List.map_congr_left fun c mem => ?_).trans (List.map_id _)
    rcases Base64.mem_encode mem with ⟨n, small, rfl⟩ | rfl
    · exact table n small
    · decide
  have full : (Base64.encode bytes).length % 4 = 0 := Base64.length_pad _
  rw [base64ToUint8Array, trimChars_base64, uint8ArrayToBase64, String.toList_ofList, standard,
    Base64.pad_eq_self full, Base64.decode_encode]

/-- The URL form is the digits of the URL alphabet. -/
theorem toList_uint8ArrayToBase64Url (bytes : Bytes) :
    (uint8ArrayToBase64Url bytes).toList = (Base64.digits bytes).map urlChar := by
  have table : ∀ n < 64, urlChar (Base64.digit n) ≠ '=' := by decide
  have kept : ((Base64.digits bytes).map urlChar).rdropWhile (fun c => c = '=') =
      (Base64.digits bytes).map urlChar := by
    rw [List.rdropWhile_eq_self_iff]
    intro nonempty
    obtain ⟨c, mem, eq⟩ := List.mem_map.mp (List.getLast_mem nonempty)
    obtain ⟨n, small, rfl⟩ := Base64.mem_digits mem
    simpa [← eq] using table n small
  have stripped : ∀ (k : Nat) (cs : List Char),
      (cs ++ List.replicate k '=').rdropWhile (fun c => c = '=') =
        cs.rdropWhile fun c => c = '=' := by
    intro k cs
    induction k with
    | zero => rw [List.replicate_zero, List.append_nil]
    | succ k ih =>
      rw [List.replicate_succ', ← List.append_assoc, List.rdropWhile_concat_pos _ _ _ (by decide),
        ih]
  rw [uint8ArrayToBase64Url, uint8ArrayToBase64, String.toList_ofList, String.toList_ofList,
    Base64.encode, Base64.pad, List.map_append, List.map_replicate]
  exact (stripped _ _).trans kept

theorem base64UrlToUint8Array_uint8ArrayToBase64Url (bytes : Bytes) :
    base64UrlToUint8Array (uint8ArrayToBase64Url bytes) = some bytes := by
  have spaces : ∀ n < 64, isWhiteSpace (urlChar (Base64.digit n)) = false := by decide
  have table : ∀ n < 64, standardChar (urlChar (Base64.digit n)) = Base64.digit n := by decide
  have plain : ∀ c ∈ (Base64.digits bytes).map urlChar, isWhiteSpace c = false := by
    intro c mem
    obtain ⟨c, written, rfl⟩ := List.mem_map.mp mem
    obtain ⟨n, small, rfl⟩ := Base64.mem_digits written
    exact spaces n small
  have standard : ((Base64.digits bytes).map urlChar).map standardChar = Base64.digits bytes := by
    rw [List.map_map]
    refine (List.map_congr_left fun c mem => ?_).trans (List.map_id _)
    obtain ⟨n, small, rfl⟩ := Base64.mem_digits mem
    exact table n small
  rw [base64UrlToUint8Array, base64ToUint8Array, toList_uint8ArrayToBase64Url,
    trimChars_plain plain, standard]
  exact Base64.decode_encode bytes

/-! ## Hexadecimal -/

/-- Lower case, two digits a byte. -/
def bytesToHex (bytes : Bytes) : String :=
  String.ofList (bytes.flatMap fun byte => [hexDigit (byte.toNat / 16), hexDigit (byte.toNat % 16)])

/-- `parseInt(text, 16)` of two characters, as the byte it becomes. -/
def hexByte (a b : Char) : UInt8 :=
  match digitValue a, digitValue b with
  | some high, some low => .ofNat (16 * high + low)
  | some high, none => .ofNat high
  | none, some low =>
    if isWhiteSpace a ∨ a = '+' then .ofNat low else if a = '-' then .ofNat (256 - low) else 0
  | none, none => 0

def hexBytes : List Char → Bytes
  | a :: b :: rest => hexByte a b :: hexBytes rest
  | _ => []

/-- A text by its UTF-16 code units. Half a surrogate pair stands as U+FFFD, which is no digit,
no sign and no white space either. -/
def codeUnits (cs : List Char) : List Char :=
  cs.flatMap fun c => if 0xFFFF < c.toNat then ['\uFFFD', '\uFFFD'] else [c]

/-- None is the error of an odd length. -/
def hexToUint8Array (hex : String) : Option Bytes :=
  let cleanHex := codeUnits (trimChars hex.toList)
  if cleanHex.length % 2 ≠ 0 then none else some (hexBytes cleanHex)

/-- `/^[0-9a-fA-F]+$/`. -/
def isHex (cs : List Char) : Bool := cs ≠ [] ∧ ∀ c ∈ cs, (digitValue c).isSome

/-- A text of hexadecimal digits and nothing else is first read as base64, unless it has the
length that is expected. -/
def decodeBase64OrHex (input : String) (expectedLength : Option Nat := none) : Option Bytes :=
  let trimmed := trimChars input.toList
  let expected := expectedLength.filter fun length => length ≠ 0
  if expected.any (fun length => trimmed.length = length * 2) ∧ isHex trimmed then
    hexToUint8Array (String.ofList trimmed)
  else
    match (base64ToUint8Array (String.ofList trimmed)).filter
        fun bytes => expected.all fun length => bytes.length = length with
    | some bytes => some bytes
    | none =>
      if isHex trimmed ∧ trimmed.length % 2 = 0 then hexToUint8Array (String.ofList trimmed)
      else base64ToUint8Array (String.ofList trimmed)

/-- A text of hexadecimal digits, in either case, that stands for some bytes. -/
structure HexText (bytes : Bytes) (text : String) : Prop where
  isHex : isHex text.toList = true
  decoded : hexToUint8Array text = some bytes

theorem not_isWhiteSpace_of_digit {c : Char} (digit : (digitValue c).isSome) :
    isWhiteSpace c = false := by
  have single : ∀ n ∈ [0x09, 0x0A, 0x0B, 0x0C, 0x0D, 0x20, 0xA0, 0x1680, 0x2028, 0x2029, 0x202F,
      0x205F, 0x3000, 0xFEFF], digitValue (Char.ofNat n) = none := by decide
  have widths : ∀ k < 11, digitValue (Char.ofNat (0x2000 + k)) = none := by decide
  by_contra space
  have none : digitValue c = none := by
    rcases of_decide_eq_true (Bool.eq_true_of_not_eq_false space) with listed | ⟨low, high⟩
    · have value := single c.toNat listed
      rwa [Char.ofNat_toNat] at value
    · have value := widths (c.toNat - 0x2000) (by omega)
      rwa [Nat.add_sub_cancel' low, Char.ofNat_toNat] at value
  rw [none] at digit
  cases digit

/-- Digits are ASCII characters. -/
theorem toNat_lt_of_digit {c : Char} (digit : (digitValue c).isSome) : c.toNat < 128 := by
  unfold digitValue at digit
  split at digit
  · rename_i ascii
    simp only [Char.isDigit, Bool.and_eq_true, decide_eq_true_eq, UInt32.le_iff_toNat_le] at ascii
    change 48 ≤ c.toNat ∧ c.toNat ≤ 57 at ascii
    omega
  · split at digit
    · rename_i letter
      by_contra high
      have same : c.toLower = c := by
        unfold Char.toLower
        refine dif_neg fun upper => ?_
        have low : c.toNat ≤ 90 := upper.2
        omega
      rw [same] at letter
      simp only [List.mem_cons, List.not_mem_nil, or_false] at letter
      rcases letter with rfl | rfl | rfl | rfl | rfl | rfl <;> exact high (by decide)
    · cases digit

/-- Digits are one code unit each. -/
theorem codeUnits_digits {cs : List Char} (digits : ∀ c ∈ cs, (digitValue c).isSome) :
    codeUnits cs = cs := by
  have single : ∀ c ∈ cs, (if 0xFFFF < c.toNat then ['\uFFFD', '\uFFFD'] else [c]) = [c] := by
    intro c mem
    have ascii := toNat_lt_of_digit (digits c mem)
    exact if_neg (by omega)
  rw [codeUnits, List.flatMap_congr single, List.flatMap_singleton']

theorem HexText.trimmed {bytes : Bytes} {text : String} (hex : HexText bytes text) :
    trimChars text.toList = text.toList :=
  trimChars_plain fun c mem => not_isWhiteSpace_of_digit ((of_decide_eq_true hex.isHex).2 c mem)

theorem HexText.units {bytes : Bytes} {text : String} (hex : HexText bytes text) :
    codeUnits text.toList = text.toList :=
  codeUnits_digits (of_decide_eq_true hex.isHex).2

theorem length_hexBytes : ∀ {cs : List Char}, cs.length % 2 = 0 →
    cs.length = 2 * (hexBytes cs).length
  | [], _ => rfl
  | [c], odd => by simp at odd
  | a :: b :: rest, even => by
    have shorter : rest.length % 2 = 0 := by
      simp only [List.length_cons] at even
      omega
    have same := length_hexBytes shorter
    simp only [hexBytes, List.length_cons]
    omega

/-- Two digits a byte. -/
theorem HexText.length {bytes : Bytes} {text : String} (hex : HexText bytes text) :
    text.toList.length = 2 * bytes.length := by
  have decoded := hex.decoded
  simp only [hexToUint8Array, hex.trimmed, hex.units] at decoded
  split at decoded
  · cases decoded
  · rename_i even
    obtain rfl := Option.some.inj decoded
    exact length_hexBytes (not_not.mp even)

theorem hexByte_hexDigit (byte : UInt8) :
    hexByte (hexDigit (byte.toNat / 16)) (hexDigit (byte.toNat % 16)) = byte := by
  have table : ∀ n < 16, digitValue (hexDigit n) = some n := by decide
  have small := byte.toNat_lt
  rw [hexByte, table _ (by omega), table _ (Nat.mod_lt _ (by decide))]
  exact Base64.ofNat_eq (by omega)

theorem hexDigit_isSome : ∀ n < 16, (digitValue (hexDigit n)).isSome := by decide

theorem digits_bytesToHex (bytes : Bytes) :
    ∀ c ∈ (bytesToHex bytes).toList, (digitValue c).isSome := by
  intro c mem
  rw [bytesToHex, String.toList_ofList] at mem
  obtain ⟨byte, -, mem⟩ := List.mem_flatMap.mp mem
  have small := byte.toNat_lt
  rcases List.mem_pair.mp mem with rfl | rfl
  · exact hexDigit_isSome _ (by omega)
  · exact hexDigit_isSome _ (Nat.mod_lt _ (by decide))

/-- A text of digits has no white space to trim and no surrogate pairs. -/
theorem cleanHex_digits {cs : List Char} (digits : ∀ c ∈ cs, (digitValue c).isSome) :
    codeUnits (trimChars cs) = cs := by
  rw [trimChars_plain fun c mem => not_isWhiteSpace_of_digit (digits c mem), codeUnits_digits digits]

theorem hexToUint8Array_bytesToHex (bytes : Bytes) :
    hexToUint8Array (bytesToHex bytes) = some bytes := by
  have written : hexBytes (bytesToHex bytes).toList = bytes := by
    rw [bytesToHex, String.toList_ofList]
    induction bytes with
    | nil => rfl
    | cons byte rest ih =>
      simp only [List.flatMap_cons, List.cons_append, List.nil_append, hexBytes, hexByte_hexDigit,
        ih]
  have even : (bytesToHex bytes).toList.length % 2 = 0 := by
    rw [bytesToHex, String.toList_ofList]
    simp [List.length_flatMap]
  simp only [hexToUint8Array, cleanHex_digits (digits_bytesToHex bytes), written]
  exact if_neg (not_not.mpr even)

/-- What `bytesToHex` writes is such a text. -/
theorem hexText_bytesToHex {bytes : Bytes} (some : bytes ≠ []) :
    HexText bytes (bytesToHex bytes) := by
  have nonempty : (bytesToHex bytes).toList ≠ [] := by
    obtain ⟨byte, rest, rfl⟩ := List.exists_cons_of_ne_nil some
    simp [bytesToHex]
  exact ⟨decide_eq_true ⟨nonempty, digits_bytesToHex bytes⟩, hexToUint8Array_bytesToHex bytes⟩

/-! ## Which of the two -/

/-- Base64 is never taken for hexadecimal where no length is expected. -/
theorem decodeBase64OrHex_base64 (bytes : Bytes) :
    decodeBase64OrHex (uint8ArrayToBase64 bytes) = some bytes := by
  simp [decodeBase64OrHex, trimChars_base64, base64ToUint8Array_uint8ArrayToBase64, Option.filter]

/-- Sixteen characters of base64 are not the 24 digits of twelve bytes. -/
theorem decodeBase64OrHex_nonce {nonce : Bytes} (length : nonce.length = 12) :
    decodeBase64OrHex (uint8ArrayToBase64 nonce) (some 12) = some nonce := by
  have sixteen : (uint8ArrayToBase64 nonce).toList.length = 16 := by
    rw [uint8ArrayToBase64, String.toList_ofList, Base64.encode, Base64.pad, List.length_append,
      List.length_replicate, Base64.digits, List.length_map, Base64.length_sextets_eq, length]
  simp [decodeBase64OrHex, trimChars_base64, sixteen, base64ToUint8Array_uint8ArrayToBase64,
    length, Option.filter]

theorem HexText.decodeBase64OrHex_nonce {nonce : Bytes} {text : String} (hex : HexText nonce text)
    (length : nonce.length = 12) : decodeBase64OrHex text (some 12) = some nonce := by
  have long : text.toList.length = 24 := by
    rw [hex.length, length]
  simp [decodeBase64OrHex, hex.trimmed, long, hex.isHex, hex.decoded]

/-- Where no length is expected, hexadecimal is read as something. -/
theorem HexText.decodeBase64OrHex_isSome {bytes : Bytes} {text : String} (hex : HexText bytes text) :
    (decodeBase64OrHex text).isSome := by
  have even : text.toList.length % 2 = 0 := by
    rw [hex.length]
    omega
  cases read : base64ToUint8Array text <;>
    simp [decodeBase64OrHex, hex.trimmed, hex.isHex, hex.decoded, even, read, Option.filter]

end KeyCollective
