import KeyCollective.Money

/-!
# Texts of dollar amounts

`dollarsToMicrodollars` checks that a text is a decimal before it reads it. `usdToMicrodollars`
gives the pieces around the first point to `BigInt`, which reads more than digits: a sign, a
radix prefix, white space, or nothing at all.
-/

namespace KeyCollective.Money

/-- `-?digits(.digits)?`. -/
structure Decimal where
  negative : Bool
  whole : List Char
  /-- The digits behind a point, when there is one. -/
  frac : Option (List Char)
  some_whole : whole ≠ []
  whole_digits : ∀ c ∈ whole, c.isDigit = true
  some_frac : frac ≠ some []
  frac_digits : ∀ c ∈ frac.getD [], c.isDigit = true

namespace Decimal

variable (amount : Decimal)

def text : List Char :=
  (if amount.negative then ['-'] else []) ++
    (amount.whole ++ (amount.frac.map ('.' :: ·)).getD [])

/-- The amount without its sign. -/
def magnitude : ℚ :=
  Nat.ofDigitChars 10 amount.whole 0 +
    Nat.ofDigitChars 10 (amount.frac.getD []) 0 / 10 ^ (amount.frac.getD []).length

/-- In microdollars, with what is behind the sixth digit dropped. -/
def microdollars : Int := withSign amount.negative ⌊amount.magnitude * 1000000⌋

end Decimal

/-- What `BigInt` reads of a text that has no white space around it. -/
inductive IntegerLiteral : List Char → Prop where
  | empty : IntegerLiteral []
  | digits {cs : List Char} (some_digit : cs ≠ []) (digits : ∀ c ∈ cs, c.isDigit = true) :
    IntegerLiteral cs
  | signed {sign : Char} {cs : List Char} (sign_eq : sign = '-' ∨ sign = '+')
    (some_digit : cs ≠ []) (digits : ∀ c ∈ cs, c.isDigit = true) : IntegerLiteral (sign :: cs)
  | radix {mark : Char} {radix : Nat} {cs : List Char}
    (mark_eq : (mark, radix) ∈ [('x', 16), ('X', 16), ('o', 8), ('O', 8), ('b', 2), ('B', 2)])
    (some_digit : cs ≠ []) (digits : ∀ c ∈ cs, ∃ value < radix, digitValue c = some value) :
    IntegerLiteral ('0' :: mark :: cs)

/-- The text in front of the first point, without a sign. -/
def wholePart (text : List Char) : List Char := ((unsigned text).splitOn '.')[0]?.getD []

/-- The text between the first two points. -/
def fractionPart (text : List Char) : List Char := ((unsigned text).splitOn '.')[1]?.getD []

def sixDecimals (frac : List Char) : List Char := (padEnd frac).take 6

/-- `BigInt` takes the pieces. -/
def PiecesRead (text : List Char) : Prop :=
  IntegerLiteral (trimChars (wholePart text)) ∧
    IntegerLiteral (trimChars (sixDecimals (fractionPart text)))

/-- A text is refused or read as the decimal it writes, and alike by both parsers. -/
structure ReadsDecimals (usd : String) : Prop where
  exact : usdToMicrodollars usd = none ∨ ∃ amount : Decimal,
    trimChars usd.toList = amount.text ∧ usdToMicrodollars usd = some amount.microdollars
  agree : dollarsToMicrodollars usd = usdToMicrodollars usd

/-! ## Integer literals -/

theorem foldlM_isSome_iff {α β : Type} {f : α → Option (β → β)} {cs : List α} {value : β} :
    (cs.foldlM (fun value c => (f c).map (· value)) value).isSome ↔ ∀ c ∈ cs, (f c).isSome := by
  induction cs generalizing value with
  | nil => simp
  | cons c rest ih =>
    rw [List.foldlM_cons, List.forall_mem_cons]
    cases f c with
    | none => simp
    | some next =>
      simp only [Option.map_some, Option.bind_eq_bind, Option.bind_some, Option.isSome_some,
        true_and]
      exact ih

theorem parseDigits_isSome_iff (radix : Nat) (cs : List Char) :
    (parseDigits radix cs).isSome ↔
      cs ≠ [] ∧ ∀ c ∈ cs, ∃ value < radix, digitValue c = some value := by
  have each (c : Char) : (((digitValue c).filter (· < radix)).map
      fun digit value => value * radix + digit).isSome ↔
        ∃ value < radix, digitValue c = some value := by
    cases digitValue c with
    | none => simp
    | some value => simp [Option.filter_some, apply_ite Option.isSome]
  have steps : (fun value c => ((digitValue c).filter (· < radix)).map (value * radix + ·)) =
      fun value c => (((digitValue c).filter (· < radix)).map
        fun digit value => value * radix + digit).map (· value) := by
    funext value c
    rw [Option.map_map]
    rfl
  cases cs with
  | nil => simp [parseDigits]
  | cons c rest =>
    rw [parseDigits, steps, List.isEmpty_cons, if_neg Bool.false_ne_true, foldlM_isSome_iff]
    simp only [each, ne_eq, reduceCtorEq, not_false_eq_true, true_and]

theorem digitValue_lt_ten_iff (c : Char) :
    (∃ value < 10, digitValue c = some value) ↔ c.isDigit = true := by
  unfold digitValue
  split
  · rename_i digit
    obtain ⟨low, high⟩ := toNat_of_isDigit digit
    exact iff_of_true ⟨_, by omega, rfl⟩ digit
  · rename_i other
    refine iff_of_false ?_ other
    rintro ⟨value, below, read⟩
    split at read
    · rename_i letter
      simp only [List.mem_cons, List.not_mem_nil, or_false] at letter
      rcases letter with eq | eq | eq | eq | eq | eq <;> simp [eq] at read <;> omega
    · cases read

theorem digits_iff (cs : List Char) :
    (∀ c ∈ cs, ∃ value < 10, digitValue c = some value) ↔ ∀ c ∈ cs, c.isDigit = true :=
  forall₂_congr fun c _ => digitValue_lt_ten_iff c

/-- A sign or a radix mark is no digit. -/
theorem integerLiteral_cons_iff {c : Char} {rest : List Char} (sign : c = '-' ∨ c = '+') :
    IntegerLiteral (c :: rest) ↔ rest ≠ [] ∧ ∀ d ∈ rest, d.isDigit = true := by
  constructor
  · intro literal
    cases literal with
    | digits some_digit digits =>
      have digit := digits c List.mem_cons_self
      rcases sign with rfl | rfl <;> cases digit
    | signed sign_eq some_digit digits => exact ⟨some_digit, digits⟩
    | radix mark_eq some_digit digits => rcases sign with sign | sign <;> cases sign
  · rintro ⟨some_digit, digits⟩
    exact .signed sign some_digit digits

theorem integerLiteral_radix_iff {mark : Char} {radix : Nat} {rest : List Char}
    (mark_eq : (mark, radix) ∈ [('x', 16), ('X', 16), ('o', 8), ('O', 8), ('b', 2), ('B', 2)]) :
    IntegerLiteral ('0' :: mark :: rest) ↔
      rest ≠ [] ∧ ∀ c ∈ rest, ∃ value < radix, digitValue c = some value := by
  have no_digit : mark.isDigit = false := by
    simp only [List.mem_cons, Prod.mk.injEq, List.not_mem_nil, or_false] at mark_eq
    rcases mark_eq with h | h | h | h | h | h <;> rw [h.1] <;> rfl
  constructor
  · intro literal
    cases literal with
    | digits some_digit digits =>
      rw [digits mark (by simp)] at no_digit
      cases no_digit
    | signed sign_eq some_digit digits => rcases sign_eq with sign | sign <;> cases sign
    | radix other some_digit digits =>
      rename_i radix'
      have same : radix' = radix := by
        simp only [List.mem_cons, Prod.mk.injEq, List.not_mem_nil, or_false] at mark_eq other
        rcases mark_eq with ⟨rfl, rfl⟩ | ⟨rfl, rfl⟩ | ⟨rfl, rfl⟩ | ⟨rfl, rfl⟩ | ⟨rfl, rfl⟩ |
          ⟨rfl, rfl⟩ <;> simpa using other
      exact ⟨some_digit, same ▸ digits⟩
  · rintro ⟨some_digit, digits⟩
    exact .radix mark_eq some_digit digits

/-- `BigInt` throws on everything but a literal. -/
theorem stringToBigInt_isSome_iff (cs : List Char) :
    (stringToBigInt (String.ofList cs)).isSome ↔ IntegerLiteral (trimChars cs) := by
  rw [stringToBigInt, String.toList_ofList]
  split
  · rename_i empty
    rw [empty]
    exact iff_of_true rfl .empty
  case h_10 plain hex hex' oct oct' bin bin' minus plus =>
    rw [Option.isSome_map, parseDigits_isSome_iff, digits_iff]
    constructor
    · rintro ⟨some_digit, digits⟩
      exact .digits some_digit digits
    · intro literal
      generalize trimChars cs = text at *
      cases literal with
      | empty => exact absurd rfl plain
      | digits some_digit digits => exact ⟨some_digit, digits⟩
      | signed sign_eq some_digit digits =>
        rcases sign_eq with rfl | rfl
        · exact absurd rfl (minus _)
        · exact absurd rfl (plus _)
      | radix mark_eq some_digit digits =>
        simp only [List.mem_cons, Prod.mk.injEq, List.not_mem_nil, or_false] at mark_eq
        rcases mark_eq with ⟨rfl, -⟩ | ⟨rfl, -⟩ | ⟨rfl, -⟩ | ⟨rfl, -⟩ | ⟨rfl, -⟩ | ⟨rfl, -⟩
        · exact absurd rfl (hex _)
        · exact absurd rfl (hex' _)
        · exact absurd rfl (oct _)
        · exact absurd rfl (oct' _)
        · exact absurd rfl (bin _)
        · exact absurd rfl (bin' _)
  all_goals
    rename_i rest split
    rw [split, Option.isSome_map, parseDigits_isSome_iff]
    first
    | rw [integerLiteral_cons_iff (by decide), digits_iff]
    | exact (integerLiteral_radix_iff (by decide)).symm

/-! ## Decimals -/

theorem ofDigitChars_lt {cs : List Char} (digits : ∀ c ∈ cs, c.isDigit = true) :
    Nat.ofDigitChars 10 cs 0 < 10 ^ cs.length := by
  induction cs with
  | nil => simp
  | cons c rest ih =>
    obtain ⟨low, high⟩ := toNat_of_isDigit (digits c List.mem_cons_self)
    have below := ih fun d mem => digits d (List.mem_cons_of_mem c mem)
    have head : 10 ^ rest.length * (c.toNat - 48) ≤ 10 ^ rest.length * 9 :=
      Nat.mul_le_mul_left _ (by omega)
    rw [Nat.ofDigitChars_cons, Nat.ofDigitChars_eq_ofDigitChars_zero, List.length_cons, pow_succ]
    simp only [mul_zero, zero_add]
    change 10 ^ rest.length * (c.toNat - 48) + _ < _
    omega

theorem length_sixDecimals (frac : List Char) : (sixDecimals frac).length = 6 := by
  rw [sixDecimals, padEnd, List.length_take, List.length_rightpad]
  omega

theorem sixDecimals_digits {frac : List Char} (digits : ∀ c ∈ frac, c.isDigit = true) :
    ∀ c ∈ sixDecimals frac, c.isDigit = true := by
  intro c mem
  rcases List.mem_append.mp (List.mem_of_mem_take mem) with digit | zero
  · exact digits c digit
  · rw [List.eq_of_mem_replicate zero]
    rfl

/-- Padded or cut, six digits count millionths. -/
theorem ofDigitChars_sixDecimals {frac : List Char} (digits : ∀ c ∈ frac, c.isDigit = true) :
    Nat.ofDigitChars 10 (sixDecimals frac) 0 =
      Nat.ofDigitChars 10 frac 0 * 1000000 / 10 ^ frac.length := by
  by_cases short : frac.length ≤ 6
  · have padded : sixDecimals frac = frac ++ List.replicate (6 - frac.length) '0' := by
      refine List.take_of_length_le ?_
      rw [padEnd, List.length_rightpad]
      omega
    have million : 1000000 = 10 ^ (6 - frac.length) * 10 ^ frac.length := by
      rw [← pow_add, Nat.sub_add_cancel short]
      rfl
    rw [padded, Nat.ofDigitChars_append, Nat.ofDigitChars_replicate_zero, million, ← mul_assoc,
      Nat.mul_div_cancel _ (Nat.pow_pos (by decide)), mul_comm]
  · have cut : sixDecimals frac = frac.take 6 := by
      rw [sixDecimals, padEnd, List.rightpad, Nat.sub_eq_zero_of_le (by omega),
        List.replicate_zero, List.append_nil]
    have behind : ∀ c ∈ frac.drop 6, c.isDigit = true := fun c mem =>
      digits c (List.mem_of_mem_drop mem)
    have later := ofDigitChars_lt behind
    rw [List.length_drop] at later
    have whole : Nat.ofDigitChars 10 frac 0 =
        10 ^ (frac.length - 6) * Nat.ofDigitChars 10 (frac.take 6) 0 +
          Nat.ofDigitChars 10 (frac.drop 6) 0 := by
      conv_lhs => rw [← List.take_append_drop 6 frac]
      rw [Nat.ofDigitChars_append, Nat.ofDigitChars_eq_ofDigitChars_zero, List.length_drop]
    have power : 10 ^ frac.length = 10 ^ (frac.length - 6) * 1000000 := by
      rw [show 1000000 = 10 ^ 6 by rfl, ← pow_add]
      congr 1
      omega
    rw [cut, power, Nat.mul_div_mul_right _ _ (by decide), whole, Nat.mul_add_div (Nat.pow_pos
      (by decide)), Nat.div_eq_of_lt later, add_zero]

theorem Decimal.microdollars_eq (amount : Decimal) :
    amount.microdollars = withSign amount.negative
      (Nat.ofDigitChars 10 amount.whole 0 * microdollarsPerUsd +
        Nat.ofDigitChars 10 (sixDecimals (amount.frac.getD [])) 0 : Nat) := by
  have scaled : amount.magnitude * 1000000 =
      ((Nat.ofDigitChars 10 amount.whole 0 * 1000000 : ℕ) : ℤ) +
        ((Nat.ofDigitChars 10 (amount.frac.getD []) 0 * 1000000 : ℕ) : ℚ) /
          ((10 ^ (amount.frac.getD []).length : ℕ) : ℚ) := by
    rw [Decimal.magnitude]
    push_cast
    ring
  rw [Decimal.microdollars, scaled, Int.floor_intCast_add, Rat.floor_natCast_div_natCast,
    ofDigitChars_sixDecimals amount.frac_digits, microdollarsPerUsd]
  norm_cast

theorem stringToBigInt_digitChars {cs : List Char} (digits : ∀ c ∈ cs, c.isDigit = true)
    (some_digit : cs ≠ []) :
    stringToBigInt (String.ofList cs) = some (Nat.ofDigitChars 10 cs 0 : Int) := by
  have nonempty : cs.isEmpty = false := List.isEmpty_eq_false_iff.mpr some_digit
  rw [stringToBigInt_of_digits digits some_digit, parseDigits, nonempty,
    if_neg Bool.false_ne_true, foldlM_digits digits]
  rfl

/-! ## The pieces of a text -/

/-- What is in front of the digits is a sign or nothing. -/
theorem unsigned_signed (negative : Bool) {cs : List Char} (plain : cs.head? ≠ some '-') :
    isNegative ((if negative then ['-'] else []) ++ cs) = negative ∧
      unsigned ((if negative then ['-'] else []) ++ cs) = cs := by
  cases negative with
  | true => exact ⟨rfl, rfl⟩
  | false =>
    have positive : isNegative cs = false := decide_eq_false plain
    simp [unsigned, positive]

theorem signed_unsigned (cs : List Char) :
    (if isNegative cs then ['-'] else []) ++ unsigned cs = cs := by
  cases cs with
  | nil => rfl
  | cons c rest =>
    by_cases sign : c = '-'
    · rw [sign]
      rfl
    · simp [unsigned, isNegative, sign]

theorem Decimal.parts (amount : Decimal) :
    isNegative amount.text = amount.negative ∧
      (unsigned amount.text).splitOn '.' = amount.whole :: amount.frac.toList := by
  have plain : (amount.whole ++ (amount.frac.map ('.' :: ·)).getD []).head? ≠ some '-' := by
    obtain ⟨c, rest, split⟩ := List.exists_cons_of_ne_nil amount.some_whole
    have digit := amount.whole_digits c (split ▸ List.mem_cons_self)
    rw [split]
    rintro ⟨⟩
    cases digit
  have point {cs : List Char} (digits : ∀ c ∈ cs, c.isDigit = true) : '.' ∉ cs := fun mem =>
    Bool.false_ne_true (digits '.' mem)
  obtain ⟨sign, rest⟩ := unsigned_signed amount.negative plain
  refine ⟨sign, ?_⟩
  have joined : amount.whole ++ (amount.frac.map ('.' :: ·)).getD [] =
      ['.'].intercalate (amount.whole :: amount.frac.toList) := by
    cases amount.frac with
    | none => simp
    | some frac => simp
  rw [Decimal.text, rest, joined]
  refine List.splitOn_intercalate '.' ?_ (List.cons_ne_nil _ _)
  intro part mem
  rcases List.mem_cons.mp mem with rfl | behind
  · exact point amount.whole_digits
  · refine point fun c digit => amount.frac_digits c ?_
    rw [Option.mem_toList.mp behind]
    exact digit

theorem isDigits_iff (cs : List Char) :
    isDigits cs = true ↔ cs ≠ [] ∧ ∀ c ∈ cs, c.isDigit = true := by
  simp [isDigits]

/-- The regular expression takes the texts of decimals. -/
theorem isAmount_iff (cs : List Char) :
    isAmount cs = true ↔ ∃ amount : Decimal, cs = amount.text := by
  constructor
  · intro amount
    have joined : ['.'].intercalate ((unsigned cs).splitOn '.') = unsigned cs :=
      List.intercalate_splitOn '.'
    have signed := signed_unsigned cs
    unfold isAmount at amount
    split at amount
    · rename_i whole split
      obtain ⟨some_whole, digits⟩ := (isDigits_iff whole).mp amount
      rw [split] at joined
      refine ⟨⟨isNegative cs, whole, none, some_whole, digits, by simp, by simp⟩, ?_⟩
      refine signed.symm.trans ?_
      rw [← joined]
      simp [Decimal.text]
    · rename_i whole frac split
      obtain ⟨first, second⟩ := Bool.and_eq_true_iff.mp amount
      obtain ⟨some_whole, digits⟩ := (isDigits_iff whole).mp first
      obtain ⟨some_frac, frac_digits⟩ := (isDigits_iff frac).mp second
      rw [split] at joined
      refine ⟨⟨isNegative cs, whole, some frac, some_whole, digits, by simpa using some_frac,
        frac_digits⟩, ?_⟩
      refine signed.symm.trans ?_
      rw [← joined]
      simp [Decimal.text]
    · cases amount
  · rintro ⟨amount, rfl⟩
    obtain ⟨-, parts⟩ := amount.parts
    have whole := (isDigits_iff _).mpr ⟨amount.some_whole, amount.whole_digits⟩
    rw [isAmount, parts]
    cases given : amount.frac with
    | none => exact whole
    | some frac =>
      have some_frac : frac ≠ [] := by
        rintro rfl
        exact amount.some_frac given
      have digits := amount.frac_digits
      rw [given] at digits
      exact Bool.and_eq_true_iff.mpr ⟨whole, (isDigits_iff _).mpr ⟨some_frac, digits⟩⟩

/-! ## What the parsers read -/

theorem usdToMicrodollars_eq (usd : String) :
    usdToMicrodollars usd =
      (stringToBigInt (String.ofList (wholePart (trimChars usd.toList)))).bind fun whole =>
        (stringToBigInt (String.ofList (sixDecimals (fractionPart (trimChars usd.toList))))).map
          fun frac => withSign (isNegative (trimChars usd.toList))
            (whole * microdollarsPerUsd + frac) := by
  have nothing : stringToBigInt (String.ofList []) = some 0 := by decide
  simp only [usdToMicrodollars, wholePart, fractionPart, sixDecimals, Option.bind_eq_bind,
    Option.pure_def]
  generalize (unsigned (trimChars usd.toList)).splitOn '.' = parts
  generalize stringToBigInt (String.ofList ((padEnd (parts[1]?.getD [])).take 6)) = frac
  rcases parts with _ | ⟨_ | ⟨c, cs⟩, rest⟩
  · rw [List.getElem?_nil, Option.getD_none, nothing]
    cases frac <;> rfl
  · rw [List.getElem?_cons_zero, Option.getD_some, nothing]
    cases frac <;> rfl
  · rw [List.getElem?_cons_zero, Option.getD_some]
    cases frac <;> rfl

/-- `usdToMicrodollars` throws when `BigInt` does. -/
theorem usdToMicrodollars_isSome_iff (usd : String) :
    (usdToMicrodollars usd).isSome ↔ PiecesRead (trimChars usd.toList) := by
  rw [usdToMicrodollars_eq, PiecesRead, ← stringToBigInt_isSome_iff, ← stringToBigInt_isSome_iff]
  cases stringToBigInt (String.ofList (wholePart (trimChars usd.toList))) with
  | none => simp
  | some whole => simp

/-- Both read a decimal as what it writes. -/
theorem reads_amount {usd : String} {amount : Decimal}
    (text : trimChars usd.toList = amount.text) :
    usdToMicrodollars usd = some amount.microdollars ∧
      dollarsToMicrodollars usd = some amount.microdollars := by
  obtain ⟨sign, parts⟩ := amount.parts
  have accepted : isAmount amount.text = true := (isAmount_iff _).mpr ⟨amount, rfl⟩
  have whole := stringToBigInt_digitChars amount.whole_digits amount.some_whole
  have six : sixDecimals (amount.frac.getD []) ≠ [] := by
    rw [← List.length_pos_iff_ne_nil, length_sixDecimals]
    decide
  have frac := stringToBigInt_digitChars (sixDecimals_digits amount.frac_digits) six
  have second : (amount.whole :: amount.frac.toList)[1]?.getD [] = amount.frac.getD [] := by
    cases amount.frac <;> rfl
  constructor
  · rw [usdToMicrodollars_eq, wholePart, fractionPart, text, parts, second, sign, frac]
    simp only [List.getElem?_cons_zero, Option.getD_some, whole, Option.bind_some, Option.map_some,
      amount.microdollars_eq]
    push_cast
    rfl
  · have cut : (if (amount.frac.getD []).length < 6 then padEnd (amount.frac.getD [])
        else (amount.frac.getD []).take 6) = sixDecimals (amount.frac.getD []) := by
      unfold sixDecimals padEnd List.rightpad
      split
      · rw [List.take_of_length_le (by simp; omega)]
      · rename_i long
        rw [Nat.sub_eq_zero_of_le (not_lt.mp long), List.replicate_zero, List.append_nil]
    unfold dollarsToMicrodollars
    simp only [text, accepted, parts, second, sign, cut, frac, whole, not_true_eq_false, if_false,
      List.getElem?_cons_zero, Option.getD_some, Option.bind_eq_bind, Option.bind_some,
      Option.pure_def, amount.microdollars_eq]
    push_cast
    rfl

theorem dollarsToMicrodollars_refused {usd : String}
    (refused : isAmount (trimChars usd.toList) = false) : dollarsToMicrodollars usd = none := by
  simp [dollarsToMicrodollars, refused]

/-- The parsers agree on decimals, and on what `BigInt` takes no piece of. Any other text is
read by `usdToMicrodollars` alone. -/
theorem reads_decimals_iff (usd : String) :
    ReadsDecimals usd ↔
      isAmount (trimChars usd.toList) = true ∨ ¬PiecesRead (trimChars usd.toList) := by
  rw [← usdToMicrodollars_isSome_iff]
  constructor
  · rintro ⟨none | ⟨amount, text, -⟩, -⟩
    · right
      simp [none]
    · exact .inl ((isAmount_iff _).mpr ⟨amount, text⟩)
  · rintro (accepted | refused)
    · obtain ⟨amount, text⟩ := (isAmount_iff _).mp accepted
      obtain ⟨usd_eq, dollars_eq⟩ := reads_amount text
      exact ⟨.inr ⟨amount, text, usd_eq⟩, dollars_eq.trans usd_eq.symm⟩
    · have none := Option.not_isSome_iff_eq_none.mp refused
      refine ⟨.inl none, ?_⟩
      rw [none]
      apply dollarsToMicrodollars_refused
      by_contra accepted
      obtain ⟨amount, text⟩ := (isAmount_iff _).mp (Bool.eq_true_of_not_eq_false accepted)
      rw [(reads_amount text).1] at none
      cases none

/-- Sixteen dollars in hexadecimal. -/
theorem reads_hexadecimal :
    usdToMicrodollars "0x10" = some 16000000 ∧ dollarsToMicrodollars "0x10" = none ∧
      ¬ReadsDecimals "0x10" := by
  have read : usdToMicrodollars "0x10" = some 16000000 := by decide
  have refused : dollarsToMicrodollars "0x10" = none := by decide
  refine ⟨read, refused, fun reads => ?_⟩
  have agree := reads.agree
  rw [read, refused] at agree
  cases agree

end KeyCollective.Money
