import KeyCollective.Quota.TenantQuota

/-!
# The stored form of a quota object

Amounts are `bigint`s in memory and decimal strings in storage. Reading back what was
written gives the amounts that were written.
-/

namespace KeyCollective

theorem trimChars_of_no_space {cs : List Char} (no_space : ∀ c ∈ cs, isWhiteSpace c = false) :
    trimChars cs = cs := by
  have keeps : ∀ ds : List Char, (∀ c ∈ ds, isWhiteSpace c = false) →
      ds.dropWhile isWhiteSpace = ds := by
    intro ds none
    cases ds with
    | nil => rfl
    | cons c rest => rw [List.dropWhile_cons, none c List.mem_cons_self, if_neg Bool.false_ne_true]
  rw [trimChars, keeps cs no_space, keeps _ fun c mem => no_space c (List.mem_reverse.mp mem),
    List.reverse_reverse]

theorem toNat_of_isDigit {c : Char} (digit : c.isDigit = true) :
    48 ≤ c.toNat ∧ c.toNat ≤ 57 := by
  simp only [Char.isDigit, Bool.and_eq_true, decide_eq_true_eq, UInt32.le_iff_toNat_le] at digit
  exact digit

theorem isWhiteSpace_of_isDigit {c : Char} (digit : c.isDigit = true) : isWhiteSpace c = false := by
  obtain ⟨low, high⟩ := toNat_of_isDigit digit
  simp only [isWhiteSpace, List.mem_cons, List.not_mem_nil, or_false, Bool.decide_or]
  simp
  omega

theorem foldlM_digits {cs : List Char} (digits : ∀ c ∈ cs, c.isDigit = true) (value : Nat) :
    cs.foldlM (fun value c => ((digitValue c).filter (· < 10)).map (value * 10 + ·)) value =
      some (Nat.ofDigitChars 10 cs value) := by
  induction cs generalizing value with
  | nil => simp
  | cons c rest ih =>
    have digit := digits c List.mem_cons_self
    have below : c.toNat - 48 < 10 := by
      have bounds := toNat_of_isDigit digit
      omega
    have read : ((digitValue c).filter (· < 10)).map (value * 10 + ·) =
        some (10 * value + (c.toNat - 48)) := by
      rw [digitValue, if_pos digit, Option.filter_some, if_pos (decide_eq_true below),
        Option.map_some, Nat.mul_comm]
    rw [List.foldlM_cons, read, Nat.ofDigitChars_cons]
    exact ih (fun other mem => digits other (List.mem_cons_of_mem _ mem)) _

theorem parseDigits_toDigits (n : Nat) : parseDigits 10 (Nat.toDigits 10 n) = some n := by
  have digits : ∀ c ∈ Nat.toDigits 10 n, c.isDigit = true := fun c mem =>
    Nat.isDigit_of_mem_toDigits (by decide) (by decide) mem
  have some_digit : (Nat.toDigits 10 n).isEmpty = false := by simp
  rw [parseDigits, some_digit, if_neg Bool.false_ne_true, foldlM_digits digits,
    Nat.ofDigitChars_ten_toDigits]

/-- Digits have no radix prefix among them. -/
theorem stringToBigInt_of_digits {cs : List Char} (digits : ∀ c ∈ cs, c.isDigit = true)
    (some_digit : cs ≠ []) :
    stringToBigInt (String.ofList cs) = (parseDigits 10 cs).map Int.ofNat := by
  rw [stringToBigInt, String.toList_ofList,
    trimChars_of_no_space fun c mem => isWhiteSpace_of_isDigit (digits c mem)]
  split
  · exact absurd rfl some_digit
  · exact absurd (digits 'x' (by simp)) (by decide)
  · exact absurd (digits 'X' (by simp)) (by decide)
  · exact absurd (digits 'o' (by simp)) (by decide)
  · exact absurd (digits 'O' (by simp)) (by decide)
  · exact absurd (digits 'b' (by simp)) (by decide)
  · exact absurd (digits 'B' (by simp)) (by decide)
  · exact absurd (digits '-' (by simp)) (by decide)
  · exact absurd (digits '+' (by simp)) (by decide)
  · rfl

theorem isDigit_toDigits (n : Nat) : ∀ c ∈ Nat.toDigits 10 n, c.isDigit = true := fun _ mem =>
  Nat.isDigit_of_mem_toDigits (by decide) (by decide) mem

theorem stringToBigInt_digits (n : Nat) :
    stringToBigInt (String.ofList (Nat.toDigits 10 n)) = some (n : Int) := by
  rw [stringToBigInt_of_digits (isDigit_toDigits n) Nat.toDigits_ne_nil, parseDigits_toDigits]
  rfl

theorem toList_toString_negSucc (n : Nat) :
    (toString (Int.negSucc n)).toList = '-' :: Nat.toDigits 10 (n + 1) := by
  have written : toString (Int.negSucc n) = "-" ++ Nat.repr (n + 1) := rfl
  rw [written, String.toList_append, Nat.toList_repr]
  rfl

/-- A written amount is not empty, and has no white space to trim. -/
theorem trim_toString (n : Int) : trim (toString n) = toString n ∧ toString n ≠ "" := by
  have written : (∀ c ∈ (toString n).toList, isWhiteSpace c = false) ∧ (toString n).toList ≠ [] := by
    cases n with
    | ofNat n =>
      have chars : (toString (Int.ofNat n)).toList = Nat.toDigits 10 n := Nat.toList_repr
      rw [chars]
      exact ⟨fun c mem => isWhiteSpace_of_isDigit (Nat.isDigit_of_mem_toDigits (by decide)
        (by decide) mem), Nat.toDigits_ne_nil⟩
    | negSucc n =>
      rw [toList_toString_negSucc]
      refine ⟨fun c mem => ?_, List.cons_ne_nil _ _⟩
      rcases List.mem_cons.mp mem with rfl | mem
      · decide
      · exact isWhiteSpace_of_isDigit (Nat.isDigit_of_mem_toDigits (by decide) (by decide) mem)
  constructor
  · rw [trim, trimChars_of_no_space written.1, String.ofList_toList]
  · intro empty
    rw [empty] at written
    exact written.2 rfl

/-- `BigInt(n.toString())` is `n`. -/
theorem stringToBigInt_toString (n : Int) : stringToBigInt (toString n) = some n := by
  cases n with
  | ofNat n => exact stringToBigInt_digits n
  | negSucc n =>
    have no_space : ∀ c ∈ '-' :: Nat.toDigits 10 (n + 1), isWhiteSpace c = false := by
      intro c mem
      rcases List.mem_cons.mp mem with rfl | mem
      · decide
      · exact isWhiteSpace_of_isDigit (Nat.isDigit_of_mem_toDigits (by decide) (by decide) mem)
    rw [stringToBigInt, toList_toString_negSucc, trimChars_of_no_space no_space]
    simp only [parseDigits_toDigits, Option.map_some]
    rfl

namespace Quota

/-- What is put under `quota:data`. -/
structure SerializedQuotaData where
  tenantId : String
  tier : UserTier
  entries : List QuotaEntry
  totalCostMicrodollars : String
  communityDebtMicroCu : Option String
  dailyContributedCu : Option String
  trustedContributor : Option Bool
  consecutiveDebtFreeDays : Option Int
  multiplierCeiling : Option Int
  lastUpdated : Int

namespace TenantQuotaData

def serialize (data : TenantQuotaData) : SerializedQuotaData where
  tenantId := data.tenantId
  tier := data.tier
  entries := data.entries
  totalCostMicrodollars := toString data.totalCostMicrodollars
  communityDebtMicroCu := data.communityDebtMicroCu.map toString
  dailyContributedCu := data.dailyContributedCu.map toString
  trustedContributor := data.trustedContributor
  consecutiveDebtFreeDays := data.consecutiveDebtFreeDays
  multiplierCeiling := data.multiplierCeiling
  lastUpdated := data.lastUpdated

/-- The conversions of `ensureLoaded`. `none` is the `SyntaxError` of a malformed amount. -/
def deserialize (stored : SerializedQuotaData) : Option TenantQuotaData := do
  let debt ← stored.communityDebtMicroCu.mapM stringToBigInt
  let contributed ← stored.dailyContributedCu.mapM stringToBigInt
  return {
    tenantId := stored.tenantId
    tier := stored.tier
    entries := stored.entries
    totalCostMicrodollars := toMicrodollars (some (.string stored.totalCostMicrodollars))
    communityDebtMicroCu := debt
    dailyContributedCu := contributed
    trustedContributor := stored.trustedContributor
    consecutiveDebtFreeDays := stored.consecutiveDebtFreeDays
    multiplierCeiling := stored.multiplierCeiling
    lastUpdated := stored.lastUpdated }

theorem mapM_toString (amount : Option Int) :
    (amount.map toString).mapM stringToBigInt = some amount := by
  cases amount with
  | none => rfl
  | some n =>
    rw [Option.map_some, Option.mapM_some, stringToBigInt_toString]
    rfl

theorem toMicrodollars_toString (n : Int) : toMicrodollars (some (.string (toString n))) = n := by
  obtain ⟨trimmed, written⟩ := trim_toString n
  have some_digit : (toString n).isEmpty = false := by simpa using written
  simp only [toMicrodollars, trimmed, some_digit, stringToBigInt_toString]
  rfl

/-- What is restored is what was persisted. -/
theorem deserialize_serialize (data : TenantQuotaData) :
    deserialize (serialize data) = some data := by
  simp only [deserialize, serialize, mapM_toString, toMicrodollars_toString]
  rfl

end TenantQuotaData

end Quota

end KeyCollective
