import KeyCollective.Host
import KeyCollective.Lib.CivilDate

/-!
# Dates of the host language

A `Date` holds a time value, or none when it is invalid. The texts `toISOString` writes are
read back as the language prescribes. What `Date.parse` makes of any other text depends on
the engine, so it is a parameter.
-/

namespace KeyCollective

/-- Milliseconds from the epoch, in the range of a `Date`. -/
structure Time where
  ms : Int
  bound : ms.natAbs ≤ 8640000000000000
deriving DecidableEq

/-- The last `width` decimal digits. -/
def decimals : Nat → Nat → List Char
  | 0, _ => []
  | width + 1, n => decimals width (n / 10) ++ [Nat.digitChar (n % 10)]

def readDecimals (digits : List Char) : Nat :=
  digits.foldl (fun value c => 10 * value + (c.toNat - 48)) 0

theorem readDecimals_decimals {width n : Nat} (fits : n < 10 ^ width) :
    readDecimals (decimals width n) = n := by
  induction width generalizing n with
  | zero =>
    have zero : n = 0 := by simpa using fits
    rw [zero]
    rfl
  | succ width ih =>
    have digit : ∀ d < 10, (Nat.digitChar d).toNat - 48 = d := by decide
    have front := ih (n := n / 10) (by omega)
    rw [readDecimals] at front
    simp only [readDecimals, decimals, List.foldl_append, List.foldl_cons, List.foldl_nil, front,
      digit _ (Nat.mod_lt n (by decide : 0 < 10))]
    omega

theorem isWhiteSpace_digitChar (n : Nat) : isWhiteSpace (Nat.digitChar (n % 10)) = false := by
  have all : ∀ d < 10, isWhiteSpace (Nat.digitChar d) = false := by decide
  exact all _ (Nat.mod_lt n (by decide))

namespace Time

variable (t : Time)

def date : CivilDate := CivilDate.ofDays (t.ms / 86400000)

def msOfDay : Nat := (t.ms % 86400000).toNat

def yearChars (year : Int) : List Char :=
  if 0 ≤ year ∧ year ≤ 9999 then decimals 4 year.toNat
  else (if year < 0 then '-' else '+') :: decimals 6 year.natAbs

/-- The text of a time behind its year. -/
def restChars (month day msOfDay : Nat) : List Char :=
  '-' :: decimals 2 month ++ '-' :: decimals 2 day ++ 'T' :: decimals 2 (msOfDay / 3600000) ++
    ':' :: decimals 2 (msOfDay / 60000 % 60) ++ ':' :: decimals 2 (msOfDay / 1000 % 60) ++
    '.' :: decimals 3 (msOfDay % 1000) ++ ['Z']

def isoChars : List Char :=
  yearChars t.date.year ++ restChars t.date.month.toNat t.date.day.toNat t.msOfDay

def toISOString : String := String.ofList t.isoChars

/-- The date a text has at the places of the ISO form. -/
def readYear : List Char → Int × List Char
  | '+' :: rest => (readDecimals (rest.take 6), rest.drop 6)
  | '-' :: rest => (-readDecimals (rest.take 6), rest.drop 6)
  | rest => (readDecimals (rest.take 4), rest.drop 4)

def readTime (text : List Char) : Int :=
  let (year, rest) := readYear text
  let field (start width : Nat) : Nat := readDecimals ((rest.drop start).take width)
  CivilDate.toDays ⟨year, field 1 2, field 4 2⟩ * 86400000 +
    (field 7 2 * 3600000 + field 10 2 * 60000 + field 13 2 * 1000 + field 16 3 : Nat)

/-- The time whose ISO text this is. -/
def ofISOString (s : String) : Option Time :=
  let ms := readTime s.toList
  if bound : ms.natAbs ≤ 8640000000000000 then
    if toISOString ⟨ms, bound⟩ = s then some ⟨ms, bound⟩ else none
  else none

/-! ## Reading back what was written -/

theorem year_bounds : -999999 ≤ t.date.year ∧ t.date.year ≤ 999999 := by
  obtain ⟨-, -, low, high⟩ := CivilDate.ofDays_bounds (t.ms / 86400000)
  have bound := t.bound
  unfold date
  omega

theorem readYear_yearChars (year : Int) (low : -999999 ≤ year) (high : year ≤ 999999)
    (rest : List Char) : readYear (yearChars year ++ rest) = (year, rest) := by
  unfold yearChars
  split
  case isTrue four =>
    have fits : year.toNat < 10 ^ 4 := by omega
    have read := readDecimals_decimals fits
    have digit : ∀ n, Nat.digitChar (n % 10) ≠ '+' ∧ Nat.digitChar (n % 10) ≠ '-' := by
      have all : ∀ d < 10, Nat.digitChar d ≠ '+' ∧ Nat.digitChar d ≠ '-' := by decide
      exact fun n => all _ (Nat.mod_lt n (by decide))
    obtain ⟨plus, minus⟩ := digit (year.toNat / 10 / 10 / 10)
    have taken : readYear (decimals 4 year.toNat ++ rest) =
        ((readDecimals (decimals 4 year.toNat) : Int), rest) := by
      change readYear (Nat.digitChar (year.toNat / 10 / 10 / 10 % 10) :: _) = _
      rw [readYear]
      · rfl
      · exact fun _ same => plus (List.cons.inj same).1
      · exact fun _ same => minus (List.cons.inj same).1
    rw [taken, read]
    simp only [Prod.mk.injEq, and_true]
    omega
  case isFalse six =>
    have read := readDecimals_decimals (show year.natAbs < 10 ^ 6 by omega)
    by_cases negative : year < 0
    · rw [if_pos negative]
      change (-(readDecimals (decimals 6 year.natAbs) : Int), rest) = _
      rw [read]
      simp only [Prod.mk.injEq, and_true]
      omega
    · rw [if_neg negative]
      change ((readDecimals (decimals 6 year.natAbs) : Int), rest) = _
      rw [read]
      simp only [Prod.mk.injEq, and_true]
      omega

theorem readTime_isoChars : readTime t.isoChars = t.ms := by
  obtain ⟨low, high⟩ := t.year_bounds
  obtain ⟨⟨month_low, month_high⟩, ⟨day_low, day_high⟩, -⟩ :=
    CivilDate.ofDays_bounds (t.ms / 86400000)
  rw [readTime, isoChars, readYear_yearChars _ low high]
  change CivilDate.toDays ⟨t.date.year, (readDecimals (decimals 2 t.date.month.toNat) : Nat),
      (readDecimals (decimals 2 t.date.day.toNat) : Nat)⟩ * 86400000 +
    ((readDecimals (decimals 2 (t.msOfDay / 3600000)) * 3600000 +
      readDecimals (decimals 2 (t.msOfDay / 60000 % 60)) * 60000 +
      readDecimals (decimals 2 (t.msOfDay / 1000 % 60)) * 1000 +
      readDecimals (decimals 3 (t.msOfDay % 1000)) : Nat) : Int) = t.ms
  have day_ms : (t.msOfDay : Int) = t.ms % 86400000 := by
    unfold msOfDay
    omega
  have short : t.msOfDay < 86400000 := by omega
  have date_eq : (⟨t.date.year, t.date.month, t.date.day⟩ : CivilDate).toDays =
      t.ms / 86400000 := CivilDate.toDays_ofDays _
  have month : t.date.month.toNat < 10 ^ 2 ∧ (t.date.month.toNat : Int) = t.date.month := by
    unfold date
    omega
  have day : t.date.day.toNat < 10 ^ 2 ∧ (t.date.day.toNat : Int) = t.date.day := by
    unfold date
    omega
  rw [readDecimals_decimals month.1, readDecimals_decimals day.1, month.2, day.2, date_eq,
    readDecimals_decimals (by omega), readDecimals_decimals (by omega),
    readDecimals_decimals (by omega), readDecimals_decimals (by omega)]
  omega

theorem ofISOString_toISOString : ofISOString t.toISOString = some t := by
  have read : readTime t.toISOString.toList = t.ms := by
    rw [toISOString, String.toList_ofList, readTime_isoChars]
  simp only [ofISOString, read, t.bound, ↓reduceDIte, ↓reduceIte]

/-- The ISO text starts in a digit or a sign and ends in `Z`. -/
theorem isoChars_ends : ∃ first middle, t.isoChars = first :: (middle ++ ['Z']) ∧
    isWhiteSpace first = false := by
  obtain ⟨front, rest⟩ : ∃ front,
      restChars t.date.month.toNat t.date.day.toNat t.msOfDay = front ++ ['Z'] := ⟨_, rfl⟩
  rw [isoChars, rest, ← List.append_assoc]
  unfold yearChars
  split
  · exact ⟨_, _, rfl, isWhiteSpace_digitChar _⟩
  · refine ⟨_, _, rfl, ?_⟩
    split <;> decide

theorem trim_toISOString : trim t.toISOString = t.toISOString := by
  obtain ⟨first, middle, chars, starts⟩ := t.isoChars_ends
  rw [trim, toISOString, String.toList_ofList, chars, trimChars_eq_self middle starts (by decide)]

theorem length_isoChars : 24 ≤ t.isoChars.length := by
  rw [isoChars, List.length_append]
  have year : 4 ≤ (yearChars t.date.year).length := by
    unfold yearChars
    split <;> simp [decimals]
  have rest : (restChars t.date.month.toNat t.date.day.toNat t.msOfDay).length = 20 := rfl
  omega

end Time

/-- What `Date.parse` makes of a text that is not in ISO form. -/
class DateParser where
  parseOther : String → Option Time

/-- `new Date(s)`. -/
def parseDate [DateParser] (s : String) : Option Time :=
  (Time.ofISOString s).or (DateParser.parseOther s)

theorem parseDate_toISOString [DateParser] (t : Time) : parseDate t.toISOString = some t := by
  rw [parseDate, t.ofISOString_toISOString, Option.some_or]

/-- `s.slice(0, 10)`, of ASCII text. -/
def sliceDay (s : String) : String := String.ofList (s.toList.take 10)

/-- A `Date` or its text. A `Date` without a time value is invalid. -/
inductive DateInput where
  | date (value : Option Time)
  | text (s : String)
deriving DecidableEq

end KeyCollective
