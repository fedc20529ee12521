import KeyCollective.Lib.ShortestDecimal
import KeyCollective.Number

/-!
# Integers as text

The host writes an integer with as few digits as are read back as it, in exponential notation
from 10^21 on.
-/

namespace KeyCollective

/-! ## Rounding -/

theorem numberOfBigInt_of_dvd {n : Int}
    (divides : 2 ^ (Nat.log2 n.natAbs - 52) ∣ n.natAbs) : numberOfBigInt n = n := by
  simp only [numberOfBigInt]
  split
  case isTrue => rfl
  case isFalse =>
    have exact_unit : n.natAbs % 2 ^ (Nat.log2 n.natAbs - 52) = 0 := Nat.mod_eq_zero_of_dvd divides
    have positive : 0 < 2 ^ (Nat.log2 n.natAbs - 52) := Nat.two_pow_pos _
    rw [exact_unit, if_neg (by omega), Nat.div_mul_cancel divides]
    exact Int.sign_mul_natAbs n

/-- An integer of 53 significant bits is a number. -/
theorem numberOfBigInt_of_bits {n : Int} {quotient e : Nat} (bits : n.natAbs = quotient * 2 ^ e)
    (few : quotient ≤ 2 ^ 53) : numberOfBigInt n = n := by
  by_cases zero : n.natAbs = 0
  · rw [Int.natAbs_eq_zero.mp zero]
    rfl
  apply numberOfBigInt_of_dvd
  rw [bits] at zero ⊢
  rcases few.lt_or_eq with less | top
  · have log : Nat.log2 (quotient * 2 ^ e) < 53 + e := by
      rw [Nat.log2_lt zero, pow_add]
      exact Nat.mul_lt_mul_of_pos_right less (Nat.two_pow_pos e)
    exact (Nat.pow_dvd_pow 2 (by omega)).mul_left quotient
  · rw [top, ← pow_add, Nat.log2_two_pow]
    exact Nat.pow_dvd_pow 2 (by omega)

/-- A large integer is rounded to a multiple of its unit: down, or up from half a unit on. -/
theorem natAbs_numberOfBigInt_cases {n : Int} (large : 2 ^ 53 ≤ n.natAbs) :
    ∃ quotient, (numberOfBigInt n).natAbs = quotient * 2 ^ (n.natAbs.log2 - 52) ∧
      (quotient = n.natAbs / 2 ^ (n.natAbs.log2 - 52) ∨
        quotient = n.natAbs / 2 ^ (n.natAbs.log2 - 52) + 1 ∧
          2 ^ (n.natAbs.log2 - 52) ≤ 2 * (n.natAbs % 2 ^ (n.natAbs.log2 - 52))) := by
  have sign : n.sign.natAbs = 1 := Int.natAbs_sign_of_ne_zero (by omega)
  simp only [numberOfBigInt, if_neg (not_lt.mpr large), Int.natAbs_mul, sign, one_mul,
    Int.natAbs_natCast]
  split
  case isTrue up => exact ⟨_, rfl, Or.inr ⟨rfl, by omega⟩⟩
  case isFalse => exact ⟨_, rfl, Or.inl rfl⟩

/-- Rounding leaves 53 significant bits. -/
theorem natAbs_numberOfBigInt_bits (n : Int) :
    ∃ quotient e, (numberOfBigInt n).natAbs = quotient * 2 ^ e ∧ quotient ≤ 2 ^ 53 := by
  by_cases small : n.natAbs < 2 ^ 53
  · rw [numberOfBigInt_of_natAbs_lt small]
    exact ⟨n.natAbs, 0, (mul_one _).symm, small.le⟩
  · obtain ⟨quotient, bits, rounded⟩ := natAbs_numberOfBigInt_cases (not_lt.mp small)
    have below : n.natAbs / 2 ^ (n.natAbs.log2 - 52) < 2 ^ 53 := by
      rw [Nat.div_lt_iff_lt_mul (Nat.two_pow_pos _), ← pow_add]
      exact Nat.lt_log2_self.trans_le (Nat.pow_le_pow_right two_pos (by omega))
    exact ⟨quotient, _, bits, by omega⟩

theorem numberOfBigInt_idempotent (n : Int) :
    numberOfBigInt (numberOfBigInt n) = numberOfBigInt n := by
  obtain ⟨quotient, e, bits, few⟩ := natAbs_numberOfBigInt_bits n
  exact numberOfBigInt_of_bits bits few

theorem numberOfBigInt_neg (n : Int) : numberOfBigInt (-n) = -numberOfBigInt n := by
  simp only [numberOfBigInt, Int.natAbs_neg, Int.sign_neg]
  split
  · rfl
  · exact Int.neg_mul _ _

/-- Up to half a unit below a power of two, an integer is rounded to one below. -/
theorem natAbs_numberOfBigInt_lt {n : Int} {e : Nat} (below : n.natAbs < 2 ^ (e + 54) - 2 ^ e) :
    (numberOfBigInt n).natAbs < 2 ^ (e + 54) - 2 ^ e := by
  by_cases small : n.natAbs < 2 ^ 53
  · rw [numberOfBigInt_of_natAbs_lt small]
    exact below
  · obtain ⟨quotient, bits, rounded⟩ := natAbs_numberOfBigInt_cases (not_lt.mp small)
    have whole := Nat.div_add_mod' n.natAbs (2 ^ (n.natAbs.log2 - 52))
    rcases rounded with down | ⟨up, half⟩
    · rw [bits, down]
      omega
    · rw [bits, up]
      have most : 2 ^ (e + 54) = 2 ^ 54 * 2 ^ e := by rw [pow_add, mul_comm]
      have positive : 0 < 2 ^ e := Nat.two_pow_pos e
      have log : n.natAbs.log2 < e + 54 := by
        rw [Nat.log2_lt (by omega)]
        omega
      rcases (Nat.le_of_lt_succ log).eq_or_lt with top | lower
      · have unit : 2 ^ (n.natAbs.log2 - 52) = 2 * 2 ^ e := by
          rw [top, ← pow_succ']
          rfl
        rw [unit] at whole half ⊢
        rw [most] at below ⊢
        have room : (2 * (n.natAbs / (2 * 2 ^ e)) + 2) * 2 ^ e < 2 ^ 54 * 2 ^ e := by
          have steps : (2 * (n.natAbs / (2 * 2 ^ e)) + 2) * 2 ^ e =
              n.natAbs / (2 * 2 ^ e) * (2 * 2 ^ e) + 2 * 2 ^ e := by ring
          omega
        have even := Nat.lt_of_mul_lt_mul_right room
        have fits : (2 * (n.natAbs / (2 * 2 ^ e)) + 2) * 2 ^ e ≤ (2 ^ 54 - 2) * 2 ^ e :=
          Nat.mul_le_mul_right _ (by omega)
        have steps : (n.natAbs / (2 * 2 ^ e) + 1) * (2 * 2 ^ e) =
            (2 * (n.natAbs / (2 * 2 ^ e)) + 2) * 2 ^ e := by ring
        omega
      · have few : n.natAbs / 2 ^ (n.natAbs.log2 - 52) + 1 ≤ 2 ^ 53 := by
          rw [Nat.succ_le_iff, Nat.div_lt_iff_lt_mul (Nat.two_pow_pos _), ← pow_add]
          exact Nat.lt_log2_self.trans_le (Nat.pow_le_pow_right two_pos (by omega))
        have unit : 2 ^ (n.natAbs.log2 - 52) ≤ 2 ^ e := Nat.pow_le_pow_right two_pos (by omega)
        have bound := Nat.mul_le_mul few unit
        omega

namespace Number

/-- A number that an integer is read as is read as itself. -/
theorem ofInt_of_ofInt {n m : Int} (read : ofInt n = .finite m) : ofInt m = .finite m := by
  unfold ofInt at read ⊢
  split at read
  case isTrue below =>
    have value : numberOfBigInt n = m := by exact_mod_cast Number.finite.inj read
    have finite : m.natAbs < 2 ^ 1024 - 2 ^ 970 := by
      have exponent : 1024 = 970 + 54 := rfl
      rw [← value, exponent]
      rw [exponent] at below
      exact natAbs_numberOfBigInt_lt below
    rw [if_pos finite, ← value, numberOfBigInt_idempotent]
  case isFalse => split at read <;> cases read

theorem ofInt_neg {n m : Int} (read : ofInt n = .finite m) : ofInt (-n) = .finite (-m : Int) := by
  unfold ofInt at read ⊢
  split at read
  case isTrue below =>
    have value : numberOfBigInt n = m := by exact_mod_cast Number.finite.inj read
    rw [Int.natAbs_neg, if_pos below, numberOfBigInt_neg, value]
  case isFalse => split at read <;> cases read

theorem ofInt_of_natAbs_lt {n : Int} (small : n.natAbs < 2 ^ 53) : ofInt n = .finite n := by
  have room : ∀ e, 2 ^ 53 ≤ 2 ^ (e + 54) - 2 ^ e := by
    intro e
    have positive := Nat.two_pow_pos e
    rw [pow_add]
    omega
  have exponent : 1024 = 970 + 54 := rfl
  have finite : n.natAbs < 2 ^ 1024 - 2 ^ 970 := by
    rw [exponent]
    exact small.trans_le (room 970)
  rw [ofInt, if_pos finite, numberOfBigInt_of_natAbs_lt small]

/-- An integer is read as an integer, or as an infinity. -/
theorem ofInt_cases (n : Int) :
    (∃ m : Int, ofInt n = .finite m) ∨ ofInt n = .infinity ∨ ofInt n = .negInfinity := by
  unfold ofInt
  split
  · exact Or.inl ⟨_, rfl⟩
  · split
    · exact Or.inr (Or.inl rfl)
    · exact Or.inr (Or.inr rfl)

end Number

/-! ## Text -/

/-- A natural number is written as the shortest decimal that is read as it. -/
def shortestDecimal (x : Nat) : Nat :=
  ShortestDecimal.shortest (fun v => Number.ofInt v = .finite x) x

/-- The digits of a decimal behind its first one, without the zeros at the end. -/
def fractionDigits (digits : List Char) : List Char :=
  (digits.reverse.dropWhile (· = '0')).reverse

def exponentialText (value : Nat) : List Char :=
  match Nat.toDigits 10 value with
  | [] => []
  | first :: rest =>
    let fraction := fractionDigits rest
    first :: ((if fraction = [] then [] else '.' :: fraction) ++
      'e' :: '+' :: Nat.toDigits 10 rest.length)

def naturalText (x : Nat) : List Char :=
  if x < 10 ^ 21 then Nat.toDigits 10 (shortestDecimal x) else exponentialText (shortestDecimal x)

/-- `String(x)` of a number that is an integer. -/
def integerToString (x : Int) : String :=
  String.ofList (if x < 0 then '-' :: naturalText x.natAbs else naturalText x.natAbs)

/-- The text of a number that is an integer. -/
@[reducible] def shortestText : NumberText where
  ofFinite value := integerToString value.num

theorem ofInt_shortestDecimal {x : Nat} (number : Number.ofInt x = .finite x) :
    Number.ofInt (shortestDecimal x) = .finite x := by
  have self : decide (Number.ofInt (x : Nat) = .finite x) = true := decide_eq_true number
  exact of_decide_eq_true (@ShortestDecimal.reads_shortest
    (fun v => decide (Number.ofInt v = .finite x)) x self)

end KeyCollective
