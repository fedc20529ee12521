import Mathlib.Data.List.Basic
import Mathlib.Tactic.Common

/-!
# UTF-8 with errors

A decoder of the web never stops at a malformed sequence. It takes the longest beginning of a
character that is there for one error and goes on behind it.
-/

namespace Utf8

def encode (cs : List Char) : List UInt8 := cs.flatMap String.utf8EncodeChar

/-- The character at the start of the bytes, when it is well formed. -/
def first (bytes : List UInt8) : Option Char := bytes.toByteArray.utf8DecodeChar? 0

/-- How many bytes follow a first byte. -/
def owed (lead : UInt8) : Nat :=
  if 0xC2 ≤ lead ∧ lead ≤ 0xDF then 1
  else if 0xE0 ≤ lead ∧ lead ≤ 0xEF then 2
  else if 0xF0 ≤ lead ∧ lead ≤ 0xF4 then 3
  else 0

/-- What the byte after a first byte may be. -/
def bounds (lead : UInt8) : UInt8 × UInt8 :=
  if lead = 0xE0 then (0xA0, 0xBF)
  else if lead = 0xED then (0x80, 0x9F)
  else if lead = 0xF0 then (0x90, 0xBF)
  else if lead = 0xF4 then (0x80, 0x8F)
  else (0x80, 0xBF)

/-- How many of the bytes owed are there. -/
def present : Nat → UInt8 × UInt8 → List UInt8 → Nat
  | owed + 1, (low, high), byte :: rest =>
    if low ≤ byte ∧ byte ≤ high then 1 + present owed (0x80, 0xBF) rest else 0
  | _, _, _ => 0

/-- The characters of at most so many sequences, errors as none. -/
def decodeFrom : Nat → List UInt8 → List (Option Char)
  | 0, _ | _, [] => []
  | sequences + 1, lead :: rest =>
    match first (lead :: rest) with
    | some c => some c :: decodeFrom sequences ((lead :: rest).drop c.utf8Size)
    | none =>
      none :: decodeFrom sequences (rest.drop (present (owed lead) (bounds lead) rest))

def decode (bytes : List UInt8) : List (Option Char) := decodeFrom bytes.length bytes

theorem first_encode (c : Char) (rest : List UInt8) :
    first (String.utf8EncodeChar c ++ rest) = some c := by
  rw [first, List.toByteArray_append]
  exact ByteArray.utf8DecodeChar?_utf8EncodeChar_append

theorem decodeFrom_encode {cs : List Char} {sequences : Nat} (enough : cs.length ≤ sequences) :
    decodeFrom sequences (encode cs) = cs.map some := by
  induction cs generalizing sequences with
  | nil => cases sequences <;> rfl
  | cons c rest ih =>
    cases sequences with
    | zero => cases enough
    | succ sequences =>
      have starts := first_encode c (encode rest)
      have size : (String.utf8EncodeChar c).length = c.utf8Size := String.length_utf8EncodeChar c
      have behind : (String.utf8EncodeChar c ++ encode rest).drop c.utf8Size = encode rest :=
        List.drop_left' size
      rw [encode, List.flatMap_cons, ← encode]
      cases bytes : String.utf8EncodeChar c ++ encode rest with
      | nil =>
        have positive := c.utf8Size_pos
        rw [← size, (List.append_eq_nil_iff.mp bytes).1] at positive
        cases positive
      | cons lead tail =>
        rw [bytes] at starts behind
        simp only [decodeFrom, starts, behind, List.map_cons]
        rw [ih (Nat.le_of_succ_le_succ enough)]

theorem length_le_encode (cs : List Char) : cs.length ≤ (encode cs).length := by
  induction cs with
  | nil => exact Nat.le_refl _
  | cons c rest ih =>
    have positive := c.utf8Size_pos
    have size : (String.utf8EncodeChar c).length = c.utf8Size := String.length_utf8EncodeChar c
    simp only [encode, List.flatMap_cons, List.length_cons, List.length_append] at ih ⊢
    omega

theorem decode_encode (cs : List Char) : decode (encode cs) = cs.map some :=
  decodeFrom_encode (length_le_encode cs)

end Utf8
