import Mathlib.Data.List.GetD
import Mathlib.Tactic.Common

/-!
# Base64

Bytes as groups of six bits, and the groups as characters. The decoder is the forgiving one of
the web: it skips white space, takes a text with or without its padding, and drops the bits
left over at the end.
-/

namespace Base64

def alphabet : List Char :=
  ['A', 'B', 'C', 'D', 'E', 'F', 'G', 'H', 'I', 'J', 'K', 'L', 'M', 'N', 'O', 'P', 'Q', 'R', 'S',
    'T', 'U', 'V', 'W', 'X', 'Y', 'Z', 'a', 'b', 'c', 'd', 'e', 'f', 'g', 'h', 'i', 'j', 'k', 'l',
    'm', 'n', 'o', 'p', 'q', 'r', 's', 't', 'u', 'v', 'w', 'x', 'y', 'z', '0', '1', '2', '3', '4',
    '5', '6', '7', '8', '9', '+', '/']

def digit (n : Nat) : Char := alphabet.getD n 'A'

def value (c : Char) : Option Nat := alphabet.idxOf? c

/-- The bits in groups of six, the last group filled up with zeros. -/
def sextets : List UInt8 → List Nat
  | [] => []
  | [a] => [a.toNat / 4, a.toNat % 4 * 16]
  | [a, b] => [a.toNat / 4, a.toNat % 4 * 16 + b.toNat / 16, b.toNat % 16 * 4]
  | a :: b :: c :: rest =>
    a.toNat / 4 :: (a.toNat % 4 * 16 + b.toNat / 16) :: (b.toNat % 16 * 4 + c.toNat / 64) ::
      c.toNat % 64 :: sextets rest

/-- The bytes that are whole in groups of six bits. -/
def bytes : List Nat → List UInt8
  | p :: q :: r :: s :: rest =>
    .ofNat (p * 4 + q / 16) :: .ofNat (q % 16 * 16 + r / 4) :: .ofNat (r % 4 * 64 + s) ::
      bytes rest
  | [p, q, r] => [.ofNat (p * 4 + q / 16), .ofNat (q % 16 * 16 + r / 4)]
  | [p, q] => [.ofNat (p * 4 + q / 16)]
  | _ => []

/-- The characters without padding. -/
def digits (data : List UInt8) : List Char := (sextets data).map digit

/-- Filled up to a multiple of four characters. -/
def pad (cs : List Char) : List Char := cs ++ List.replicate ((4 - cs.length % 4) % 4) '='

def encode (data : List UInt8) : List Char := pad (digits data)

def isSpace (c : Char) : Bool := c.toNat ∈ [0x09, 0x0A, 0x0C, 0x0D, 0x20]

/-- One or two padding characters at the end. -/
def unpad (cs : List Char) : List Char :=
  match cs.reverse with
  | '=' :: '=' :: rest => rest.reverse
  | '=' :: rest => rest.reverse
  | _ => cs

def decode (cs : List Char) : Option (List UInt8) :=
  let cs := cs.filter fun c => !isSpace c
  let cs := if cs.length % 4 = 0 then unpad cs else cs
  if cs.length % 4 = 1 then none else (cs.mapM value).map bytes

/-! ## Groups of six bits -/

theorem sextets_lt (data : List UInt8) : ∀ n ∈ sextets data, n < 64 := by
  fun_induction sextets data with
  | case1 => simp
  | case2 a =>
    have := a.toNat_lt
    simp only [List.mem_cons, List.not_mem_nil, or_false, forall_eq_or_imp, forall_eq]
    omega
  | case3 a b =>
    have := a.toNat_lt
    have := b.toNat_lt
    simp only [List.mem_cons, List.not_mem_nil, or_false, forall_eq_or_imp, forall_eq]
    omega
  | case4 a b c rest ih =>
    have := a.toNat_lt
    have := b.toNat_lt
    have := c.toNat_lt
    simp only [List.mem_cons, forall_eq_or_imp]
    exact ⟨by omega, by omega, by omega, by omega, ih⟩

/-- No group is left over alone. -/
theorem length_sextets (data : List UInt8) : (sextets data).length % 4 ≠ 1 := by
  fun_induction sextets data with
  | case1 => simp
  | case2 => simp
  | case3 => simp
  | case4 a b c rest ih =>
    simp only [List.length_cons]
    omega

theorem length_sextets_eq (data : List UInt8) :
    (sextets data).length = (4 * data.length + 2) / 3 := by
  fun_induction sextets data with
  | case1 => simp
  | case2 => simp
  | case3 => simp
  | case4 a b c rest ih =>
    simp only [List.length_cons]
    omega

theorem ofNat_eq {b : UInt8} {n : Nat} (same : n = b.toNat) : UInt8.ofNat n = b := by
  rw [same, UInt8.ofNat_toNat]

theorem bytes_sextets (data : List UInt8) : bytes (sextets data) = data := by
  fun_induction sextets data with
  | case1 => rfl
  | case2 a =>
    rw [bytes, ofNat_eq (b := a) (by omega)]
  | case3 a b =>
    have := b.toNat_lt
    rw [bytes, ofNat_eq (b := a) (by omega), ofNat_eq (b := b) (by omega)]
  | case4 a b c rest ih =>
    have := b.toNat_lt
    have := c.toNat_lt
    rw [bytes, ofNat_eq (b := a) (by omega), ofNat_eq (b := b) (by omega),
      ofNat_eq (b := c) (by omega), ih]

/-! ## Characters -/

theorem value_digit {n : Nat} (small : n < 64) : value (digit n) = some n := by
  have table : ∀ n < 64, value (digit n) = some n := by decide
  exact table n small

theorem mem_digits {data : List UInt8} {c : Char} (mem : c ∈ digits data) :
    ∃ n < 64, digit n = c := by
  obtain ⟨n, group, eq⟩ := List.mem_map.mp mem
  exact ⟨n, sextets_lt data n group, eq⟩

theorem mem_encode {data : List UInt8} {c : Char} (mem : c ∈ encode data) :
    (∃ n < 64, digit n = c) ∨ c = '=' := by
  rcases List.mem_append.mp mem with written | filled
  · exact Or.inl (mem_digits written)
  · exact Or.inr (List.mem_replicate.mp filled).2

theorem isSpace_encode {data : List UInt8} {c : Char} (mem : c ∈ encode data) :
    isSpace c = false := by
  have written : ∀ n < 64, isSpace (digit n) = false := by decide
  rcases mem_encode mem with ⟨n, small, rfl⟩ | rfl
  · exact written n small
  · decide

theorem padding_not_mem_digits (data : List UInt8) : '=' ∉ digits data := by
  have written : ∀ n < 64, digit n ≠ '=' := by decide
  intro mem
  obtain ⟨n, small, eq⟩ := mem_digits mem
  exact written n small eq

theorem mapM_value {groups : List Nat} (small : ∀ n ∈ groups, n < 64) :
    (groups.map digit).mapM value = some groups := by
  induction groups with
  | nil => rfl
  | cons n rest ih =>
    rw [List.map_cons, List.mapM_cons, value_digit (small n List.mem_cons_self),
      ih fun n mem => small n (List.mem_cons_of_mem _ mem)]
    rfl

/-! ## The round trip -/

theorem unpad_pad {cs : List Char} (plain : '=' ∉ cs) (grouped : cs.length % 4 ≠ 1) :
    unpad (pad cs) = cs := by
  have last : ∀ rest, cs.reverse ≠ '=' :: rest := fun rest reversed =>
    plain (List.mem_reverse.mp (reversed ▸ List.mem_cons_self))
  have cases : cs.length % 4 = 0 ∨ cs.length % 4 = 2 ∨ cs.length % 4 = 3 := by omega
  rcases cases with full | two | three
  · simp only [pad, full, Nat.sub_zero, Nat.mod_self, List.replicate_zero, List.append_nil, unpad]
    split
    · rename_i rest reversed
      exact absurd reversed (last _)
    · rename_i rest reversed
      exact absurd reversed (last _)
    · rfl
  · have filled : (pad cs).reverse = '=' :: '=' :: cs.reverse := by
      simp [pad, two, List.replicate_succ]
    rw [unpad, filled]
    exact List.reverse_reverse cs
  · have filled : (pad cs).reverse = '=' :: cs.reverse := by
      simp [pad, three, List.replicate_succ]
    rw [unpad, filled]
    split
    · rename_i rest reversed
      exact absurd (List.tail_eq_of_cons_eq reversed) (last _)
    · rename_i rest reversed
      rw [← List.tail_eq_of_cons_eq reversed, List.reverse_reverse]
    · rename_i other
      exact absurd rfl (other _)

theorem length_pad (cs : List Char) : (pad cs).length % 4 = 0 := by
  simp only [pad, List.length_append, List.length_replicate]
  omega

theorem pad_eq_self {cs : List Char} (full : cs.length % 4 = 0) : pad cs = cs := by
  simp [pad, full]

theorem decode_encode (data : List UInt8) : decode (encode data) = some data := by
  have spaceless : (encode data).filter (fun c => !isSpace c) = encode data :=
    List.filter_eq_self.mpr fun c mem => by rw [isSpace_encode mem]; rfl
  have grouped : (digits data).length % 4 ≠ 1 := by
    rw [digits, List.length_map]
    exact length_sextets data
  have filled : (encode data).length % 4 = 0 := length_pad _
  have stripped : unpad (encode data) = digits data :=
    unpad_pad (padding_not_mem_digits data) grouped
  simp only [decode, spaceless]
  rw [if_pos filled, stripped, if_neg grouped, digits, mapM_value (sextets_lt data),
    Option.map_some, bytes_sextets]

end Base64
