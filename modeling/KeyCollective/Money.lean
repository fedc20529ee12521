import KeyCollective.Number
import KeyCollective.Quota.Storage

/-!
# Amounts as text

Two codecs between microdollars and dollars in decimal: `usdToMicrodollars` with
`microdollarsToUsdString`, and `dollarsToMicrodollars` with `formatMicrodollars`. A formatter
drops zeros of the six decimals and the parser puts them back.
-/

namespace KeyCollective.Money

def microdollarsPerUsd : Nat := 1000000

/-- `(abs % MICRODOLLARS_PER_USD).toString().padStart(6, "0")`. -/
def fracDigits (abs : Nat) : List Char :=
  (Nat.toDigits 10 (abs % microdollarsPerUsd)).leftpad 6 '0'

/-- `cs.padEnd(6, "0")`. -/
def padEnd (cs : List Char) : List Char := cs.rightpad 6 '0'

def isNegative (cs : List Char) : Bool := cs.head? = some '-'

def unsigned (cs : List Char) : List Char := if isNegative cs then cs.tail else cs

def withSign (negative : Bool) (n : Int) : Int := if negative then -n else n

/-! ## The calculator's codec -/

/-- `length > x`. -/
def longerThan (length : Nat) : Number → Bool
  | .finite x => x < length
  | .negInfinity => true
  | .infinity | .nan => false

/-- `x < 6`. -/
def fewerThanSix : Number → Bool
  | .finite x => x < 6
  | .negInfinity => true
  | .infinity | .nan => false

/-- The loop over trailing zeros, on the characters from the last one back. -/
def trimZeros (minDecimals : Number) : List Char → List Char
  | '0' :: rest =>
    if longerThan (rest.length + 1) minDecimals then trimZeros minDecimals rest else '0' :: rest
  | cs => cs

def microdollarsToUsdString (microdollars : Int) (minDecimals : Number := .finite 2) : String :=
  let abs := microdollars.natAbs
  let whole := abs / microdollarsPerUsd
  let fracStr :=
    if fewerThanSix minDecimals then (trimZeros minDecimals (fracDigits abs).reverse).reverse
    else fracDigits abs
  String.ofList ((if microdollars < 0 then ['-'] else []) ++
    '$' :: (Nat.toDigits 10 whole ++ '.' :: fracStr))

/-- `none` is the `SyntaxError` of `BigInt`. -/
def usdToMicrodollars (usd : String) : Option Int := do
  let str := trimChars usd.toList
  let parts := (unsigned str).splitOn '.'
  let wholePart ← match parts[0]? with
    | none | some [] => some 0
    | some whole => stringToBigInt (String.ofList whole)
  let fractionalStr := (padEnd (parts[1]?.getD [])).take 6
  let fracPart ← stringToBigInt (String.ofList fractionalStr)
  return withSign (isNegative str) (wholePart * microdollarsPerUsd + fracPart)

/-! ## The constants' codec -/

inductive Precision where
  | cents
  | microdollars
  | auto
deriving DecidableEq

def isDigits (cs : List Char) : Bool := ¬cs.isEmpty ∧ cs.all Char.isDigit

/-- `/^-?\d+(\.\d+)?$/`. -/
def isAmount (str : List Char) : Bool :=
  match (unsigned str).splitOn '.' with
  | [whole] => isDigits whole
  | [whole, frac] => isDigits whole && isDigits frac
  | _ => false

/-- `none` is the `TypeError` of a string that is no amount. -/
def dollarsToMicrodollars (dollars : String) : Option Int := do
  let str := trimChars dollars.toList
  if ¬isAmount str then none
  let parts := (unsigned str).splitOn '.'
  let fractionPart := parts[1]?.getD []
  let fractionPart :=
    if fractionPart.length < 6 then padEnd fractionPart else fractionPart.take 6
  let intBig ← stringToBigInt (String.ofList (parts[0]?.getD ['0']))
  let fracBig ← stringToBigInt (String.ofList fractionPart)
  return withSign (isNegative str) (intBig * microdollarsPerUsd + fracBig)

/-- `cs.replace(/0+$/, "")`. -/
def dropZeros (cs : List Char) : List Char := cs.rdropWhile (· = '0')

def formatMicrodollars (microdollars : Int) (includeSymbol : Bool := true)
    (precision : Precision := .auto) : String :=
  let abs := microdollars.natAbs
  let intPart := abs / microdollarsPerUsd
  let fracStr := fracDigits abs
  let formattedFrac :=
    match precision with
    | .cents => fracStr.take 2
    | .microdollars => fracStr
    | .auto =>
      if abs % microdollarsPerUsd % 10000 = 0 then fracStr.take 2
      else (dropZeros fracStr).rightpad 2 '0'
  String.ofList ((if microdollars < 0 then ['-'] else []) ++
    ((if includeSymbol then ['$'] else []) ++ (Nat.toDigits 10 intPart ++ '.' :: formattedFrac)))

/-! ## Digits -/

theorem ofDigitChars_zeros (k : Nat) (cs : List Char) :
    Nat.ofDigitChars 10 (List.replicate k '0' ++ cs) 0 = Nat.ofDigitChars 10 cs 0 := by
  induction k with
  | zero => rfl
  | succ k ih =>
    rw [List.replicate_succ, List.cons_append, Nat.ofDigitChars_cons]
    exact ih

theorem fracDigits_digits (abs : Nat) : ∀ c ∈ fracDigits abs, c.isDigit = true := by
  intro c mem
  rw [fracDigits, List.leftpad, List.mem_append] at mem
  rcases mem with zero | digit
  · rw [List.eq_of_mem_replicate zero]
    rfl
  · exact isDigit_toDigits _ c digit

theorem length_fracDigits (abs : Nat) : (fracDigits abs).length = 6 := by
  have below : abs % microdollarsPerUsd < 10 ^ 6 := Nat.mod_lt _ (by decide)
  have short : (Nat.toDigits 10 (abs % microdollarsPerUsd)).length ≤ 6 :=
    (Nat.length_toDigits_le_iff (by decide) (by decide)).mpr below
  rw [fracDigits, List.length_leftpad]
  exact max_eq_left short

theorem parseDigits_fracDigits (abs : Nat) :
    parseDigits 10 (fracDigits abs) = some (abs % microdollarsPerUsd) := by
  have some_digit : (fracDigits abs).isEmpty = false := by
    rw [List.isEmpty_eq_false_iff, ← List.length_pos_iff_ne_nil, length_fracDigits]
    decide
  rw [parseDigits, some_digit, if_neg Bool.false_ne_true, foldlM_digits (fracDigits_digits abs),
    fracDigits, List.leftpad, ofDigitChars_zeros, Nat.ofDigitChars_ten_toDigits]

theorem stringToBigInt_fracDigits (abs : Nat) :
    stringToBigInt (String.ofList (fracDigits abs)) =
      some ((abs % microdollarsPerUsd : Nat) : Int) := by
  have some_digit : fracDigits abs ≠ [] := by
    rw [← List.length_pos_iff_ne_nil, length_fracDigits]
    decide
  rw [stringToBigInt_of_digits (fracDigits_digits abs) some_digit, parseDigits_fracDigits]
  rfl

theorem not_digit_ne {cs : List Char} {c : Char} (digits : ∀ d ∈ cs, d.isDigit = true)
    (other : c.isDigit = false) : ∀ d ∈ cs, (d == c) = false := by
  intro d mem
  have differs : d ≠ c := by
    rintro rfl
    rw [digits d mem] at other
    cases other
  simpa using differs

theorem split_digits {whole frac : List Char} (whole_digits : ∀ c ∈ whole, c.isDigit = true)
    (frac_digits : ∀ c ∈ frac, c.isDigit = true) :
    (whole ++ '.' :: frac).splitOn '.' = [whole, frac] := by
  rw [List.splitOn, List.splitOnP_append_cons whole frac (p := fun c => c == '.') rfl,
    List.splitOnP_eq_singleton (not_digit_ne whole_digits rfl),
    List.splitOnP_eq_singleton (not_digit_ne frac_digits rfl)]
  rfl

/-- A signed amount with a point. -/
def written (negative : Bool) (whole frac : List Char) : List Char :=
  (if negative then ['-'] else []) ++ (whole ++ '.' :: frac)

theorem unsigned_written (negative : Bool) (frac : List Char) {whole : List Char}
    (digits : ∀ c ∈ whole, c.isDigit = true) (some_digit : whole ≠ []) :
    isNegative (written negative whole frac) = negative ∧
      unsigned (written negative whole frac) = whole ++ '.' :: frac := by
  cases negative with
  | true => exact ⟨rfl, rfl⟩
  | false =>
    cases whole with
    | nil => exact absurd rfl some_digit
    | cons c rest =>
      have positive : isNegative (written false (c :: rest) frac) = false := by
        have differs : c ≠ '-' := by
          rintro rfl
          exact absurd (digits '-' List.mem_cons_self) (by decide)
        simpa [isNegative, written] using differs
      refine ⟨positive, ?_⟩
      rw [unsigned, positive]
      rfl

theorem trim_written {negative : Bool} {whole frac : List Char}
    (whole_digits : ∀ c ∈ whole, c.isDigit = true) (frac_digits : ∀ c ∈ frac, c.isDigit = true) :
    trimChars (written negative whole frac) = written negative whole frac := by
  refine trimChars_of_no_space fun c mem => ?_
  rw [written, List.mem_append, List.mem_append, List.mem_cons] at mem
  rcases mem with sign | digit | rfl | digit
  · cases negative with
    | true =>
      rw [List.mem_singleton.mp sign]
      decide
    | false => cases sign
  · exact isWhiteSpace_of_isDigit (whole_digits c digit)
  · decide
  · exact isWhiteSpace_of_isDigit (frac_digits c digit)

theorem withSign_natAbs (m : Int) : withSign (m < 0) m.natAbs = m := by
  by_cases negative : m < 0
  · simp only [withSign, negative, decide_true, if_true]
    omega
  · simp only [withSign, negative, decide_false, Bool.false_eq_true, if_false]
    omega

theorem parts_sum (abs : Nat) :
    ((abs / microdollarsPerUsd : Nat) : Int) * microdollarsPerUsd +
      ((abs % microdollarsPerUsd : Nat) : Int) = abs := by
  unfold microdollarsPerUsd
  omega

/-- The parsers pad the decimals that were written. -/
theorem usdToMicrodollars_written (negative : Bool) (abs : Nat) {frac : List Char}
    (digits : ∀ c ∈ frac, c.isDigit = true) (padded : padEnd frac = fracDigits abs) :
    usdToMicrodollars (String.ofList
      (written negative (Nat.toDigits 10 (abs / microdollarsPerUsd)) frac)) =
        some (withSign negative abs) := by
  have whole_digits := isDigit_toDigits (abs / microdollarsPerUsd)
  have some_digit : Nat.toDigits 10 (abs / microdollarsPerUsd) ≠ [] := Nat.toDigits_ne_nil
  obtain ⟨sign, rest⟩ := unsigned_written negative frac whole_digits some_digit
  have six : (padEnd frac).take 6 = fracDigits abs := by
    rw [padded, List.take_of_length_le (length_fracDigits abs).le]
  have whole_read := stringToBigInt_digits (abs / microdollarsPerUsd)
  unfold usdToMicrodollars
  simp only [String.toList_ofList, trim_written whole_digits digits, rest, sign,
    split_digits whole_digits digits, List.getElem?_cons_zero, List.getElem?_cons_succ,
    Option.getD_some, six, stringToBigInt_fracDigits]
  generalize Nat.toDigits 10 (abs / microdollarsPerUsd) = whole at some_digit whole_read
  cases whole with
  | nil => exact absurd rfl some_digit
  | cons c more =>
    simp only [whole_read, Option.bind_eq_bind, Option.bind_some, parts_sum, Option.pure_def]

theorem dollarsToMicrodollars_written (negative : Bool) (abs : Nat) {frac : List Char}
    (digits : ∀ c ∈ frac, c.isDigit = true) (some_frac : frac ≠ [])
    (padded : padEnd frac = fracDigits abs) :
    dollarsToMicrodollars (String.ofList
      (written negative (Nat.toDigits 10 (abs / microdollarsPerUsd)) frac)) =
        some (withSign negative abs) := by
  have whole_digits := isDigit_toDigits (abs / microdollarsPerUsd)
  have some_digit : Nat.toDigits 10 (abs / microdollarsPerUsd) ≠ [] := Nat.toDigits_ne_nil
  obtain ⟨sign, rest⟩ := unsigned_written negative frac whole_digits some_digit
  have amount :
      isAmount (written negative (Nat.toDigits 10 (abs / microdollarsPerUsd)) frac) = true := by
    have all (cs : List Char) (h : ∀ c ∈ cs, c.isDigit = true) : cs.all Char.isDigit = true :=
      List.all_eq_true.mpr h
    simp [isAmount, rest, split_digits whole_digits digits, isDigits, all _ whole_digits,
      all _ digits, some_digit, some_frac]
  have at_most_six : frac.length ≤ 6 := by
    have length := congrArg List.length padded
    rw [length_fracDigits, padEnd, List.length_rightpad] at length
    omega
  have six : (if frac.length < 6 then padEnd frac else frac.take 6) = fracDigits abs := by
    split
    · exact padded
    · have full : frac.length = 6 := by omega
      rw [← padded, padEnd, List.rightpad, full, List.take_of_length_le full.le]
      simp
  unfold dollarsToMicrodollars
  simp only [String.toList_ofList, trim_written whole_digits digits, rest, sign,
    split_digits whole_digits digits, List.getElem?_cons_zero, List.getElem?_cons_succ,
    Option.getD_some, six, stringToBigInt_fracDigits, stringToBigInt_digits, amount,
    not_true_eq_false, if_false, Option.bind_eq_bind, Option.bind_some, parts_sum,
    Option.pure_def]

/-! ## What the formatters drop -/

/-- Dropped zeros are padded again. -/
theorem padEnd_kept {kept : List Char} {abs k : Nat}
    (dropped : fracDigits abs = kept ++ List.replicate k '0') : padEnd kept = fracDigits abs := by
  have length := length_fracDigits abs
  rw [dropped, List.length_append, List.length_replicate] at length
  have zeros : 6 - kept.length = k := by omega
  rw [dropped, padEnd, List.rightpad, zeros]

theorem digits_kept {kept : List Char} {abs k : Nat}
    (dropped : fracDigits abs = kept ++ List.replicate k '0') :
    ∀ c ∈ kept, c.isDigit = true := by
  intro c mem
  refine fracDigits_digits abs c ?_
  rw [dropped]
  exact List.mem_append_left _ mem

theorem trimZeros_dropped (minDecimals : Number) (cs : List Char) :
    ∃ k, cs = List.replicate k '0' ++ trimZeros minDecimals cs := by
  induction cs with
  | nil => exact ⟨0, rfl⟩
  | cons c rest ih =>
    unfold trimZeros
    split
    · rename_i heads
      obtain ⟨rfl, rfl⟩ := List.cons.inj heads
      split
      · obtain ⟨k, dropped⟩ := ih
        refine ⟨k + 1, ?_⟩
        rw [List.replicate_succ, List.cons_append, ← dropped]
      · exact ⟨0, rfl⟩
    · exact ⟨0, rfl⟩

theorem usdDecimals_dropped (abs : Nat) (minDecimals : Number) :
    ∃ k, fracDigits abs =
      (if fewerThanSix minDecimals then (trimZeros minDecimals (fracDigits abs).reverse).reverse
        else fracDigits abs) ++ List.replicate k '0' := by
  split
  · obtain ⟨k, dropped⟩ := trimZeros_dropped minDecimals (fracDigits abs).reverse
    refine ⟨k, ?_⟩
    have back := congrArg List.reverse dropped
    rwa [List.reverse_reverse, List.reverse_append, List.reverse_replicate] at back
  · exact ⟨0, (List.append_nil _).symm⟩

theorem usd_without_sign (m : Int) (minDecimals : Number) :
    ∃ frac, (∀ c ∈ frac, c.isDigit = true) ∧ padEnd frac = fracDigits m.natAbs ∧
      remove (microdollarsToUsdString m minDecimals) "$" =
        String.ofList (written (m < 0) (Nat.toDigits 10 (m.natAbs / microdollarsPerUsd)) frac) := by
  obtain ⟨k, dropped⟩ := usdDecimals_dropped m.natAbs minDecimals
  refine ⟨_, digits_kept dropped, padEnd_kept dropped, ?_⟩
  rw [remove, microdollarsToUsdString, String.toList_ofList, written]
  by_cases negative : m < 0
  · simp [negative, removeChars]
  · simp [negative, removeChars]

/-- **The calculator reads back what it wrote.** -/
theorem usdToMicrodollars_format (m : Int) (minDecimals : Number) :
    usdToMicrodollars (remove (microdollarsToUsdString m minDecimals) "$") = some m := by
  obtain ⟨frac, digits, padded, text⟩ := usd_without_sign m minDecimals
  rw [text, usdToMicrodollars_written _ _ digits padded, withSign_natAbs]

theorem dropZeros_dropped (cs : List Char) : ∃ k, cs = dropZeros cs ++ List.replicate k '0' := by
  refine ⟨(cs.reverse.takeWhile (· = '0')).length, ?_⟩
  have zeros : cs.reverse.takeWhile (· = '0') =
      List.replicate (cs.reverse.takeWhile (· = '0')).length '0' := by
    rw [List.eq_replicate_iff]
    exact ⟨rfl, fun c mem => by simpa using List.mem_takeWhile_imp mem⟩
  have parts := List.takeWhile_append_dropWhile (p := (· = '0')) (l := cs.reverse)
  have back := congrArg List.reverse parts
  rw [List.reverse_append, List.reverse_reverse, zeros, List.reverse_replicate] at back
  exact back.symm

/-- Whole cents have four zeros at the end. -/
theorem cents_dropped {abs : Nat} (cents : abs % microdollarsPerUsd % 10000 = 0) :
    fracDigits abs = (fracDigits abs).take 2 ++ List.replicate 4 '0' := by
  have below : abs % microdollarsPerUsd / 10000 < 100 := by
    unfold microdollarsPerUsd
    omega
  have multiple : abs % microdollarsPerUsd = 10000 * (abs % microdollarsPerUsd / 10000) := by omega
  have all : ∀ q < 100, (Nat.toDigits 10 (10000 * q)).leftpad 6 '0' =
      ((Nat.toDigits 10 (10000 * q)).leftpad 6 '0').take 2 ++ List.replicate 4 '0' := by
    decide
  unfold fracDigits
  rw [multiple]
  exact all _ below

theorem padded_dropped {kept : List Char} {abs k : Nat}
    (dropped : fracDigits abs = kept ++ List.replicate k '0') :
    ∃ j, fracDigits abs = kept.rightpad 2 '0' ++ List.replicate j '0' := by
  have length := length_fracDigits abs
  rw [dropped, List.length_append, List.length_replicate] at length
  refine ⟨k - (2 - kept.length), ?_⟩
  have split : k = (2 - kept.length) + (k - (2 - kept.length)) := by omega
  rw [dropped, List.rightpad, List.append_assoc, List.replicate_append_replicate, ← split]

/-- The decimals of the two precisions that lose nothing. -/
theorem decimals_dropped (abs : Nat) {precision : Precision} (exact : precision ≠ .cents) :
    ∃ frac k, frac ≠ [] ∧ fracDigits abs = frac ++ List.replicate k '0' ∧
      ∀ m : Int, m.natAbs = abs → ∀ includeSymbol,
        formatMicrodollars m includeSymbol precision = String.ofList
          ((if m < 0 then ['-'] else []) ++ ((if includeSymbol then ['$'] else []) ++
            (Nat.toDigits 10 (abs / microdollarsPerUsd) ++ '.' :: frac))) := by
  have length := length_fracDigits abs
  cases precision with
  | cents => exact absurd rfl exact
  | microdollars =>
    refine ⟨fracDigits abs, 0, ?_, (List.append_nil _).symm, ?_⟩
    · rw [← List.length_pos_iff_ne_nil, length]
      decide
    · rintro m rfl includeSymbol
      rfl
  | auto =>
    by_cases cents : abs % microdollarsPerUsd % 10000 = 0
    · refine ⟨(fracDigits abs).take 2, 4, ?_, cents_dropped cents, ?_⟩
      · rw [← List.length_pos_iff_ne_nil, List.length_take, length]
        decide
      · rintro m rfl includeSymbol
        rw [formatMicrodollars]
        simp only [cents, if_true]
    · obtain ⟨k, dropped⟩ := dropZeros_dropped (fracDigits abs)
      obtain ⟨j, padded⟩ := padded_dropped dropped
      refine ⟨(dropZeros (fracDigits abs)).rightpad 2 '0', j, ?_, padded, ?_⟩
      · rw [← List.length_pos_iff_ne_nil, List.length_rightpad]
        omega
      · rintro m rfl includeSymbol
        rw [formatMicrodollars]
        simp only [cents, if_false]

/-- **The constants read back what they wrote**, whole or trimmed. -/
theorem dollarsToMicrodollars_format (m : Int) {precision : Precision} (exact : precision ≠ .cents) :
    dollarsToMicrodollars (formatMicrodollars m false precision) = some m := by
  obtain ⟨frac, k, some_frac, dropped, text⟩ := decimals_dropped m.natAbs exact
  have bare := text m rfl false
  have amount := dollarsToMicrodollars_written (m < 0) m.natAbs (digits_kept dropped) some_frac
    (padEnd_kept dropped)
  rw [withSign_natAbs] at amount
  rw [bare, ← amount, written]
  simp

/-- The symbol stands after the sign. -/
theorem remove_symbol (m : Int) {precision : Precision} (exact : precision ≠ .cents) :
    remove (formatMicrodollars m true precision) "$" = formatMicrodollars m false precision := by
  obtain ⟨frac, k, -, -, text⟩ := decimals_dropped m.natAbs exact
  rw [text m rfl true, text m rfl false, remove, String.toList_ofList]
  by_cases negative : m < 0
  · simp [negative, removeChars]
  · simp [negative, removeChars]

/-- **The codecs round trip**, for amounts of any size and sign; so two amounts are never
written alike, with the symbol or without it. -/
theorem codec_round_trip :
    (∀ (m : Int) (minDecimals : Number),
      usdToMicrodollars (remove (microdollarsToUsdString m minDecimals) "$") = some m) ∧
    (∀ (m : Int) (precision : Precision), precision = .auto ∨ precision = .microdollars →
      dollarsToMicrodollars (formatMicrodollars m false precision) = some m) ∧
    (∀ minDecimals : Number, Function.Injective (microdollarsToUsdString · minDecimals)) ∧
    ∀ (includeSymbol : Bool) (precision : Precision),
      precision = .auto ∨ precision = .microdollars →
        Function.Injective (formatMicrodollars · includeSymbol precision) := by
  have not_cents {precision : Precision} (mode : precision = .auto ∨ precision = .microdollars) :
      precision ≠ .cents := by
    rcases mode with rfl | rfl <;> decide
  refine ⟨usdToMicrodollars_format, fun m _ mode => dollarsToMicrodollars_format m (not_cents mode),
    ?_, ?_⟩
  · intro minDecimals m n same
    have read := congrArg (fun text => usdToMicrodollars (remove text "$")) same
    simp only [usdToMicrodollars_format] at read
    exact Option.some.inj read
  · intro includeSymbol precision mode m n same
    have bare : formatMicrodollars m false precision = formatMicrodollars n false precision := by
      cases includeSymbol with
      | false => exact same
      | true =>
        rw [← remove_symbol m (not_cents mode), ← remove_symbol n (not_cents mode)]
        exact congrArg (remove · "$") same
    have read := congrArg dollarsToMicrodollars bare
    rw [dollarsToMicrodollars_format m (not_cents mode),
      dollarsToMicrodollars_format n (not_cents mode)] at read
    exact Option.some.inj read

/-- Five microdollars owed. -/
theorem codec_round_trip_five :
    usdToMicrodollars "-0.000005" = some (-5) ∧
      dollarsToMicrodollars (formatMicrodollars (-5) false .auto) = some (-5) :=
  ⟨by decide, codec_round_trip.2.1 (-5) .auto (Or.inl rfl)⟩

end KeyCollective.Money
