import Mathlib.Tactic.Common

/-!
# `application/x-www-form-urlencoded`

Pairs of byte strings, as the standard of the web writes and reads them. Reading never fails: a
per cent sign that no two digits follow is read as it is.
-/

namespace FormUrlencoded

abbrev Bytes := List UInt8

def separator : UInt8 := 0x26

def equals : UInt8 := 0x3D

def space : UInt8 := 0x20

def plus : UInt8 := 0x2B

def percent : UInt8 := 0x25

/-- The bytes that are written as they are. -/
def plain (byte : UInt8) : Bool :=
  (0x30 ≤ byte ∧ byte ≤ 0x39) ∨ (0x41 ≤ byte ∧ byte ≤ 0x5A) ∨ (0x61 ≤ byte ∧ byte ≤ 0x7A) ∨
    byte ∈ [0x2A, 0x2D, 0x2E, 0x5F]

def hexDigit (n : UInt8) : UInt8 := if n < 10 then 0x30 + n else 0x37 + n

/-- Either case is read. -/
def hexValue (byte : UInt8) : Option UInt8 :=
  if 0x30 ≤ byte ∧ byte ≤ 0x39 then some (byte - 0x30)
  else if 0x41 ≤ byte ∧ byte ≤ 0x46 then some (byte - 0x37)
  else if 0x61 ≤ byte ∧ byte ≤ 0x66 then some (byte - 0x57)
  else none

def encodeByte (byte : UInt8) : Bytes :=
  if plain byte then [byte]
  else if byte = space then [plus]
  else [percent, hexDigit (byte / 16), hexDigit (byte % 16)]

def encode (bytes : Bytes) : Bytes := bytes.flatMap encodeByte

/-- The byte that a per cent sign and two digits stand for. -/
def escaped (byte high low : UInt8) : Option UInt8 :=
  if byte = percent then
    match hexValue high, hexValue low with
    | some h, some l => some (16 * h + l)
    | _, _ => none
  else none

def unescaped (byte : UInt8) : UInt8 := if byte = plus then space else byte

def decode : Bytes → Bytes
  | [] => []
  | [byte] => [unescaped byte]
  | [byte, next] => [unescaped byte, unescaped next]
  | byte :: high :: low :: rest =>
    match escaped byte high low with
    | some value => value :: decode rest
    | none => unescaped byte :: decode (high :: low :: rest)

def serialize (pairs : List (Bytes × Bytes)) : Bytes :=
  [separator].intercalate (pairs.map fun pair => encode pair.1 ++ equals :: encode pair.2)

/-- The bytes before the first equals sign, and those behind it. -/
def parsePair (sequence : Bytes) : Bytes × Bytes :=
  (decode (sequence.takeWhile (· ≠ equals)), decode ((sequence.dropWhile (· ≠ equals)).drop 1))

def parse (bytes : Bytes) : List (Bytes × Bytes) :=
  ((bytes.splitOn separator).filter (· ≠ [])).map parsePair

/-! ## What is written is read -/

theorem hexValue_hexDigit {n : UInt8} (small : n.toNat < 16) : hexValue (hexDigit n) = some n := by
  have all : ∀ n : Fin 16, hexValue (hexDigit (.ofNat n)) = some (.ofNat n) := by decide
  have read := all ⟨n.toNat, small⟩
  rwa [UInt8.ofNat_toNat] at read

theorem digits_small (byte : UInt8) : (byte / 16).toNat < 16 ∧ (byte % 16).toNat < 16 := by
  have bound := byte.toNat_lt
  rw [UInt8.toNat_div, UInt8.toNat_mod]
  exact ⟨Nat.div_lt_of_lt_mul bound, Nat.mod_lt _ (by decide)⟩

theorem decode_cons {byte : UInt8} (literal : byte ≠ percent) (rest : Bytes) :
    decode (byte :: rest) = unescaped byte :: decode rest := by
  match rest with
  | [] => rfl
  | [next] => rfl
  | high :: low :: behind =>
    have none : escaped byte high low = none := if_neg literal
    rw [decode, none]

theorem decode_encodeByte (byte : UInt8) (rest : Bytes) :
    decode (encodeByte byte ++ rest) = byte :: decode rest := by
  have signs : plain percent = false ∧ plain plus = false := by decide
  unfold encodeByte
  split_ifs with unchanged spaced
  · have literal : byte ≠ percent := by
      rintro rfl
      exact absurd unchanged (Bool.eq_false_iff.mp signs.1)
    have same : unescaped byte = byte := by
      apply if_neg
      rintro rfl
      exact absurd unchanged (Bool.eq_false_iff.mp signs.2)
    rw [List.singleton_append, decode_cons literal, same]
  · subst spaced
    rw [List.singleton_append, decode_cons (by decide)]
    rfl
  · obtain ⟨high, low⟩ := digits_small byte
    have whole : 16 * (byte / 16) + byte % 16 = byte := by
      apply UInt8.toNat_inj.mp
      have bound := byte.toNat_lt
      rw [UInt8.toNat_add, UInt8.toNat_mul, UInt8.toNat_div, UInt8.toNat_mod]
      change (16 * (byte.toNat / 16) % 256 + byte.toNat % 16) % 256 = byte.toNat
      omega
    have read : escaped percent (hexDigit (byte / 16)) (hexDigit (byte % 16)) = some byte := by
      simp only [escaped, ↓reduceIte, hexValue_hexDigit high, hexValue_hexDigit low, whole]
    simp only [List.cons_append, List.nil_append, decode, read]

theorem decode_encode (bytes : Bytes) : decode (encode bytes) = bytes := by
  induction bytes with
  | nil => rfl
  | cons byte rest ih =>
    rw [encode, List.flatMap_cons, decode_encodeByte, ← encode, ih]

/-- What is written holds neither sign that divides: it is not written as it is, and no digit. -/
theorem mem_encode {bytes : Bytes} {byte : UInt8} (mem : byte ∈ encode bytes) :
    byte ≠ separator ∧ byte ≠ equals := by
  obtain ⟨source, -, written⟩ := List.mem_flatMap.mp mem
  have digit {n : UInt8} (small : n.toNat < 16) : hexDigit n ≠ separator ∧ hexDigit n ≠ equals := by
    have read := hexValue_hexDigit small
    constructor
    · intro same
      rw [same] at read
      cases read
    · intro same
      rw [same] at read
      cases read
  obtain ⟨high, low⟩ := digits_small source
  unfold encodeByte at written
  split_ifs at written with unchanged
  · obtain rfl := List.mem_singleton.mp written
    constructor
    · rintro rfl
      cases unchanged
    · rintro rfl
      cases unchanged
  · obtain rfl := List.mem_singleton.mp written
    decide
  · simp only [List.mem_cons, List.not_mem_nil, or_false] at written
    rcases written with rfl | rfl | rfl
    · decide
    · exact digit high
    · exact digit low

theorem parsePair_encode (name value : Bytes) :
    parsePair (encode name ++ equals :: encode value) = (name, value) := by
  have stop : ∀ byte ∈ encode name, decide (byte ≠ equals) = true := fun byte mem =>
    decide_eq_true (mem_encode mem).2
  have before : (encode name ++ equals :: encode value).takeWhile (· ≠ equals) = encode name := by
    rw [List.takeWhile_append_of_pos stop]
    simp
  have behind : (encode name ++ equals :: encode value).dropWhile (· ≠ equals) =
      equals :: encode value := by
    rw [List.dropWhile_append_of_pos stop]
    simp
  rw [parsePair, before, behind, List.drop_one, List.tail_cons, decode_encode, decode_encode]

/-- Any pairs in any order, with names and values that may be empty or come again. -/
theorem parse_serialize (pairs : List (Bytes × Bytes)) : parse (serialize pairs) = pairs := by
  cases pairs with
  | nil => rfl
  | cons pair rest =>
    have whole : ∀ sequence ∈ (pair :: rest).map fun pair =>
        encode pair.1 ++ equals :: encode pair.2, separator ∉ sequence := by
      intro sequence mem within
      obtain ⟨source, -, rfl⟩ := List.mem_map.mp mem
      rcases List.mem_append.mp within with inName | inValue
      · exact (mem_encode inName).1 rfl
      · rcases List.mem_cons.mp inValue with same | inValue
        · cases same
        · exact (mem_encode inValue).1 rfl
    rw [parse, serialize, List.splitOn_intercalate _ whole (by simp), List.filter_eq_self.mpr]
    · rw [List.map_map]
      conv_rhs => rw [← List.map_id (pair :: rest)]
      apply List.map_congr_left
      intro source _
      exact parsePair_encode source.1 source.2
    · intro sequence mem
      obtain ⟨source, -, rfl⟩ := List.mem_map.mp mem
      simp

end FormUrlencoded
