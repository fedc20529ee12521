import KeyCollective.Crypto.Encoding

/-!
# Two decoders of hexadecimal

`hexToBytes` checks that a text has digits only, and `hexToUint8Array` takes a pair that is no
digit for zero. Both trim the text first, so what they take of it is written back without the
white space around it.
-/

namespace KeyCollective

/-- None is the `TypeError` of an odd length or of another character. -/
def hexToBytes (hex : String) : Option Bytes :=
  let cleanHex := codeUnits (trimChars hex.toList)
  if cleanHex.length % 2 ≠ 0 then none
  else if ¬cleanHex.all fun c => (digitValue c).isSome then none
  else some (hexBytes cleanHex)

/-- The text without the white space around it, in lower case. -/
def lowerHex (hex : String) : String :=
  String.ofList ((trimChars hex.toList).map Char.toLower)

/-- The trimmed text is pairs of digits. -/
def DigitPairs (hex : String) : Prop :=
  (trimChars hex.toList).length % 2 = 0 ∧ ∀ c ∈ trimChars hex.toList, (digitValue c).isSome

/-- The decoders take and refuse alike, other than for the characters only one of them checks. -/
structure HexDecodersAgree (hex : String) : Prop where
  accepts : (hexToBytes hex).isSome ↔ DigitPairs hex
  same : (hexToBytes hex).isSome → hexToUint8Array hex = hexToBytes hex
  odd : (codeUnits (trimChars hex.toList)).length % 2 ≠ 0 →
    hexToBytes hex = none ∧ hexToUint8Array hex = none
  written : ∀ bytes, hexToBytes hex = some bytes → bytesToHex bytes = lowerHex hex

theorem isSome_codeUnits {cs : List Char} (digits : ∀ c ∈ codeUnits cs, (digitValue c).isSome) :
    ∀ c ∈ cs, (digitValue c).isSome := by
  intro c mem
  by_cases astral : 0xFFFF < c.toNat
  · have half : '\uFFFD' ∈ codeUnits cs :=
      List.mem_flatMap.mpr ⟨c, mem, by simp [astral]⟩
    exact absurd (digits _ half) (by decide)
  · exact digits c (List.mem_flatMap.mpr ⟨c, mem, by simp [astral]⟩)

theorem hexToBytes_eq_some_iff (hex : String) (bytes : Bytes) :
    hexToBytes hex = some bytes ↔ DigitPairs hex ∧ hexBytes (trimChars hex.toList) = bytes := by
  simp only [hexToBytes]
  constructor
  · intro decoded
    split at decoded
    · cases decoded
    split at decoded
    · cases decoded
    rename_i even digits
    have each := isSome_codeUnits (List.all_eq_true.mp (not_not.mp digits))
    rw [codeUnits_digits each] at even decoded
    exact ⟨⟨not_not.mp even, each⟩, Option.some.inj decoded⟩
  · rintro ⟨⟨even, digits⟩, rfl⟩
    rw [codeUnits_digits digits, if_neg (not_not.mpr even),
      if_neg (not_not.mpr (List.all_eq_true.mpr digits))]

/-- A digit is written back in lower case. -/
theorem hexDigit_of_digitValue {c : Char} {value : Nat} (read : digitValue c = some value) :
    value < 16 ∧ hexDigit value = c.toLower := by
  have table : ∀ n < 128, (digitValue (Char.ofNat n)).all (fun value =>
      value < 16 ∧ hexDigit value = (Char.ofNat n).toLower) = true := by decide
  have ascii := toNat_lt_of_digit (read ▸ rfl : (digitValue c).isSome)
  have entry := table c.toNat ascii
  rw [Char.ofNat_toNat, read] at entry
  exact of_decide_eq_true entry

theorem bytesToHex_hexBytes : ∀ {cs : List Char}, cs.length % 2 = 0 →
    (∀ c ∈ cs, (digitValue c).isSome) →
      (bytesToHex (hexBytes cs)).toList = cs.map Char.toLower
  | [], _, _ => rfl
  | [c], odd, _ => by simp at odd
  | a :: b :: rest, even, digits => by
    obtain ⟨high, read_a⟩ := Option.isSome_iff_exists.mp (digits a List.mem_cons_self)
    obtain ⟨low, read_b⟩ := Option.isSome_iff_exists.mp (digits b (by simp))
    obtain ⟨high_lt, written_a⟩ := hexDigit_of_digitValue read_a
    obtain ⟨low_lt, written_b⟩ := hexDigit_of_digitValue read_b
    have later : (bytesToHex (hexBytes rest)).toList = rest.map Char.toLower := bytesToHex_hexBytes
      (by simp only [List.length_cons] at even; omega)
      (fun c mem => digits c (by simp [mem]))
    have byte : (UInt8.ofNat (16 * high + low)).toNat = 16 * high + low := by
      rw [UInt8.toNat_ofNat']
      exact Nat.mod_eq_of_lt (by omega)
    rw [bytesToHex, String.toList_ofList] at later ⊢
    simp only [hexBytes, hexByte, read_a, read_b, List.flatMap_cons, byte, later, List.map_cons,
      List.cons_append, List.nil_append, show (16 * high + low) / 16 = high by omega,
      show (16 * high + low) % 16 = low by omega, written_a, written_b]

theorem hexToUint8Array_of_pairs {hex : String} (pairs : DigitPairs hex) :
    hexToUint8Array hex = some (hexBytes (trimChars hex.toList)) := by
  simp only [hexToUint8Array, codeUnits_digits pairs.2]
  exact if_neg (not_not.mpr pairs.1)

theorem hexDecodersAgree (hex : String) : HexDecodersAgree hex where
  accepts := by
    rw [Option.isSome_iff_exists]
    constructor
    · rintro ⟨bytes, decoded⟩
      exact ((hexToBytes_eq_some_iff hex bytes).mp decoded).1
    · intro pairs
      exact ⟨_, (hexToBytes_eq_some_iff hex _).mpr ⟨pairs, rfl⟩⟩
  same := by
    intro accepted
    obtain ⟨bytes, decoded⟩ := Option.isSome_iff_exists.mp accepted
    obtain ⟨pairs, rfl⟩ := (hexToBytes_eq_some_iff hex bytes).mp decoded
    rw [decoded, hexToUint8Array_of_pairs pairs]
  odd := by
    intro odd
    exact ⟨if_pos odd, if_pos odd⟩
  written := by
    intro bytes decoded
    obtain ⟨⟨even, digits⟩, rfl⟩ := (hexToBytes_eq_some_iff hex bytes).mp decoded
    rw [lowerHex, ← bytesToHex_hexBytes even digits, String.ofList_toList]

/-- Where a text is pairs of digits or of odd length, the decoders cannot be told apart, and what
they read is the text that `bytesToHex` writes, trimmed and in lower case. -/
theorem hex_decoders_agree :
    (∀ hex, HexDecodersAgree hex) ∧
      ∀ bytes, hexToBytes (bytesToHex bytes) = some bytes ∧
        hexToUint8Array (bytesToHex bytes) = some bytes := by
  refine ⟨hexDecodersAgree, fun bytes => ⟨?_, hexToUint8Array_bytesToHex bytes⟩⟩
  have read := hexToUint8Array_bytesToHex bytes
  have digits := digits_bytesToHex bytes
  simp only [hexToUint8Array, cleanHex_digits digits] at read
  simp only [hexToBytes, cleanHex_digits digits]
  rw [if_neg (not_not.mpr (List.all_eq_true.mpr digits))]
  exact read

/-- Two letters are a zero to one decoder, and the white space around digits is not kept. -/
theorem hex_decoders_differ :
    hexToUint8Array "zz" = some [0] ∧ hexToBytes "zz" = none ∧
      hexToBytes " ff" = some [255] ∧ hexToUint8Array " ff" = some [255] ∧
      bytesToHex [255] ≠ String.ofList (" ff".toList.map Char.toLower) := by
  decide

end KeyCollective
