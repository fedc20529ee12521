import Mathlib

/-!
# Strings of the host language

`trim` strips the white space and line terminators of ECMAScript, and
`stringToBigInt` reads its integer literals. Changing case depends on the Unicode
tables of the runtime, so it is a parameter.
-/

namespace KeyCollective

/-- What the runtime supplies. -/
class Host where
  toLowerCase : String → String
  toUpperCase : String → String

/-- Changing case as every runtime does it on ASCII text. -/
@[reducible] def asciiHost : Host where
  toLowerCase s := String.ofList (s.toList.map Char.toLower)
  toUpperCase s := String.ofList (s.toList.map Char.toUpper)

/-- ECMAScript `WhiteSpace` and `LineTerminator`. -/
def isWhiteSpace (c : Char) : Bool :=
  c.toNat ∈ [0x09, 0x0A, 0x0B, 0x0C, 0x0D, 0x20, 0xA0, 0x1680, 0x2028, 0x2029, 0x202F, 0x205F,
    0x3000, 0xFEFF] ∨ (0x2000 ≤ c.toNat ∧ c.toNat ≤ 0x200A)

def trimChars (cs : List Char) : List Char :=
  ((cs.dropWhile isWhiteSpace).reverse.dropWhile isWhiteSpace).reverse

def trim (s : String) : String := String.ofList (trimChars s.toList)

/-- `s.trim().length === 0`. -/
def isBlank (s : String) : Bool := s.toList.all isWhiteSpace

/-- Trimming changes nothing between two characters that are no white space. -/
theorem trimChars_eq_self {first last : Char} (middle : List Char)
    (starts : isWhiteSpace first = false) (ends : isWhiteSpace last = false) :
    trimChars (first :: (middle ++ [last])) = first :: (middle ++ [last]) := by
  have front : (first :: (middle ++ [last])).dropWhile isWhiteSpace =
      first :: (middle ++ [last]) := by
    rw [List.dropWhile_cons, starts]
    rfl
  have back : (first :: (middle ++ [last])).reverse = last :: (first :: middle).reverse := by
    simp
  rw [trimChars, front, back, List.dropWhile_cons, ends]
  simp

/-- What trimming leaves does not start or end in white space. -/
theorem trimChars_idempotent (cs : List Char) : trimChars (trimChars cs) = trimChars cs := by
  have back : trimChars cs = (cs.dropWhile isWhiteSpace).rdropWhile isWhiteSpace := rfl
  have front : (trimChars cs).dropWhile isWhiteSpace = trimChars cs := by
    rw [List.dropWhile_eq_self_iff, back]
    intro nonempty
    have sub := List.rdropWhile_prefix isWhiteSpace (cs.dropWhile isWhiteSpace)
    have some : 0 < (cs.dropWhile isWhiteSpace).length := lt_of_lt_of_le nonempty sub.length_le
    have first := List.dropWhile_get_zero_not isWhiteSpace cs some
    rw [List.get_eq_getElem] at first
    rw [sub.getElem nonempty]
    exact first
  change ((trimChars cs).dropWhile isWhiteSpace).rdropWhile isWhiteSpace = _
  rw [front, back, List.rdropWhile_idempotent]

theorem trim_trim (s : String) : trim (trim s) = trim s := by
  simp only [trim, String.toList_ofList, trimChars_idempotent]

theorem trim_eq_empty {s : String} (blank : isBlank s = true) : trim s = "" := by
  have spaces : s.toList.dropWhile isWhiteSpace = [] :=
    List.dropWhile_eq_nil_iff.mpr (List.all_eq_true.mp blank)
  rw [trim, trimChars, spaces]
  rfl

theorem isBlank_eq_false {s : String} (trimmed : trim s ≠ "") : isBlank s = false :=
  Bool.eq_false_iff.mpr fun blank => trimmed (trim_eq_empty blank)

theorem trim_ne_empty {s : String} (text : isBlank s = false) : trim s ≠ "" := by
  intro empty
  have none : trimChars s.toList = [] := by
    rw [trim] at empty
    simpa using congrArg String.toList empty
  have spaces : s.toList.dropWhile isWhiteSpace = [] := by
    by_contra some
    have := List.rdropWhile_eq_nil_iff.mp none
    have first := List.dropWhile_get_zero_not isWhiteSpace s.toList (List.length_pos_of_ne_nil some)
    exact first (this _ (List.get_mem ..))
  rw [isBlank, List.all_eq_true.mpr (List.dropWhile_eq_nil_iff.mp spaces)] at text
  cases text

/-- A trimmed text that is not empty is not blank. -/
theorem isBlank_trim (s : String) : isBlank (trim s) = false ↔ isBlank s = false := by
  constructor
  · intro text
    have some := trim_ne_empty text
    rw [trim_trim] at some
    exact isBlank_eq_false some
  · intro text
    refine isBlank_eq_false ?_
    rw [trim_trim]
    exact trim_ne_empty text

def removeChars (part : List Char) : List Char → List Char
  | [] => []
  | c :: cs => if part.isPrefixOf (c :: cs) then (c :: cs).drop part.length
    else c :: removeChars part cs

/-- `s.replace(part, "")`. -/
def remove (s part : String) : String := String.ofList (removeChars part.toList s.toList)

/-- `s.length`, in UTF-16 code units. -/
def utf16Length (s : String) : Nat := (s.toList.map fun c => if 0xFFFF < c.toNat then 2 else 1).sum

/-- How many code units a character has. -/
def unitCount (c : Char) : Nat := if 0xFFFF < c.toNat then 2 else 1

/-- The first `n` code units. Half a surrogate pair stands as U+FFFD. -/
def takeUnits : Nat → List Char → List Char
  | _, [] => []
  | n, c :: rest =>
    if unitCount c ≤ n then c :: takeUnits (n - unitCount c) rest
    else if n = 0 then [] else ['\uFFFD']

/-- What follows the first `n` code units. -/
def dropUnits : Nat → List Char → List Char
  | _, [] => []
  | n, c :: rest =>
    if n = 0 then c :: rest
    else if unitCount c ≤ n then dropUnits (n - unitCount c) rest
    else '\uFFFD' :: rest

/-- `s.startsWith(head)`. -/
def startsWith (s head : String) : Bool := head.toList.isPrefixOf s.toList

def includesChars (part : List Char) : List Char → Bool
  | [] => part.isEmpty
  | c :: cs => part.isPrefixOf (c :: cs) || includesChars part cs

/-- `s.includes(part)`. -/
def includes (s part : String) : Bool := includesChars part.toList s.toList

def digitValue (c : Char) : Option Nat :=
  if c.isDigit then some (c.toNat - 48)
  else if c.toLower ∈ ['a', 'b', 'c', 'd', 'e', 'f'] then some (c.toLower.toNat - 87)
  else none

def parseDigits (radix : Nat) (cs : List Char) : Option Nat :=
  if cs.isEmpty then none
  else cs.foldlM (fun value c =>
    ((digitValue c).filter (· < radix)).map (value * radix + ·)) 0

/-- `BigInt(s)`: decimal digits with a sign, or unsigned digits after a radix prefix.
`none` is the `SyntaxError`. -/
def stringToBigInt (s : String) : Option Int :=
  match trimChars s.toList with
  | [] => some 0
  | '0' :: 'x' :: cs | '0' :: 'X' :: cs => (parseDigits 16 cs).map Int.ofNat
  | '0' :: 'o' :: cs | '0' :: 'O' :: cs => (parseDigits 8 cs).map Int.ofNat
  | '0' :: 'b' :: cs | '0' :: 'B' :: cs => (parseDigits 2 cs).map Int.ofNat
  | '-' :: cs => (parseDigits 10 cs).map fun n => -Int.ofNat n
  | '+' :: cs => (parseDigits 10 cs).map Int.ofNat
  | cs => (parseDigits 10 cs).map Int.ofNat

/-- `Number(n)` for an integer a double can reach: rounded to 53 significant bits,
halves to even. -/
def numberOfBigInt (n : Int) : Int :=
  let m := n.natAbs
  if m < 2 ^ 53 then n
  else
    let unit := 2 ^ (Nat.log2 m - 52)
    let quotient := m / unit
    let up := unit < 2 * (m % unit) ∨ unit = 2 * (m % unit) ∧ quotient % 2 = 1
    n.sign * ((if up then quotient + 1 else quotient) * unit : Nat)

theorem numberOfBigInt_of_natAbs_lt {n : Int} (small : n.natAbs < 2 ^ 53) :
    numberOfBigInt n = n := by
  simp only [numberOfBigInt, if_pos small]

theorem numberOfBigInt_of_lt {n : Int} (natural : 0 ≤ n) (small : n < 2 ^ 53) :
    numberOfBigInt n = n :=
  numberOfBigInt_of_natAbs_lt (by omega)

theorem numberOfBigInt_pos {n : Int} (positive : 0 < n) : 0 < numberOfBigInt n := by
  simp only [numberOfBigInt]
  split
  · exact positive
  · have some : n.natAbs ≠ 0 := by omega
    have below : 2 ^ (Nat.log2 n.natAbs - 52) ≤ n.natAbs :=
      (Nat.pow_le_pow_right two_pos (Nat.sub_le _ _)).trans (Nat.log2_self_le some)
    have quotient : 0 < n.natAbs / 2 ^ (Nat.log2 n.natAbs - 52) :=
      Nat.div_pos below (Nat.two_pow_pos _)
    rw [Int.sign_eq_one_of_pos positive, one_mul]
    refine Int.natCast_pos.mpr (Nat.mul_pos ?_ (Nat.two_pow_pos _))
    split
    · exact Nat.succ_pos _
    · exact quotient

def maxSafeInteger : Int := 2 ^ 53 - 1

def isSafeInteger (n : Int) : Bool := -maxSafeInteger ≤ n ∧ n ≤ maxSafeInteger

theorem numberOfBigInt_of_safe {n : Int} (safe : isSafeInteger n = true) : numberOfBigInt n = n := by
  obtain ⟨low, high⟩ := of_decide_eq_true safe
  apply numberOfBigInt_of_natAbs_lt
  unfold maxSafeInteger at low high
  omega

theorem natAbs_numberOfBigInt {n : Int} (large : 2 ^ 53 ≤ n.natAbs) :
    2 ^ 53 ≤ (numberOfBigInt n).natAbs := by
  have some : n.natAbs ≠ 0 := by omega
  have exponent : 53 ≤ n.natAbs.log2 := (Nat.le_log2 some).mpr large
  have power : 2 ^ 52 * 2 ^ (n.natAbs.log2 - 52) = 2 ^ n.natAbs.log2 := by
    rw [← pow_add]
    congr 1
    omega
  have quotient : 2 ^ 52 ≤ n.natAbs / 2 ^ (n.natAbs.log2 - 52) := by
    rw [Nat.le_div_iff_mul_le (Nat.two_pow_pos _), power]
    exact Nat.log2_self_le some
  have whole : 2 ^ 53 ≤ 2 ^ 52 * 2 ^ (n.natAbs.log2 - 52) := by
    rw [power]
    exact Nat.pow_le_pow_right two_pos exponent
  have sign : n.sign.natAbs = 1 := Int.natAbs_sign_of_ne_zero (by omega)
  simp only [numberOfBigInt, if_neg (not_lt.mpr large), Int.natAbs_mul, sign, one_mul,
    Int.natAbs_natCast]
  refine whole.trans (Nat.mul_le_mul_right _ (quotient.trans ?_))
  split
  · exact Nat.le_succ _
  · exact le_rfl

/-- Rounding does not bring an integer into the safe range. -/
theorem numberOfBigInt_eq_of_safe {n : Int} (safe : isSafeInteger (numberOfBigInt n) = true) :
    numberOfBigInt n = n := by
  obtain ⟨low, high⟩ := of_decide_eq_true safe
  apply numberOfBigInt_of_natAbs_lt
  by_contra large
  have kept := natAbs_numberOfBigInt (not_lt.mp large)
  unfold maxSafeInteger at low high
  omega

/-- A string the host takes for false: missing or empty. -/
def isFalsy (s : Option String) : Bool :=
  match s with
  | some s => s = ""
  | none => true

end KeyCollective
