import KeyCollective.Date
import KeyCollective.Lib.CalendarOrder
import KeyCollective.Lib.Lexicographic

/-!
# Timestamps as texts

The texts of one kind of year come in the order of their digits. So a text is compared with the
ISO text of a time as its own digits are, whatever its offset, and a text that ends in `Z`
before the milliseconds comes behind all times it is the start of.
-/

namespace KeyCollective

open Lexicographic

/-! ## Decimals of one width -/

theorem length_decimals (width n : Nat) : (decimals width n).length = width := by
  induction width generalizing n with
  | zero => rfl
  | succ width ih => rw [decimals, List.length_append, ih]; rfl

theorem digitChar_lt {m n : Nat} (small : m < 10) (small' : n < 10) :
    Nat.digitChar m < Nat.digitChar n ↔ m < n := by
  have all : ∀ m < 10, ∀ n < 10, Nat.digitChar m < Nat.digitChar n ↔ m < n := by decide
  exact all m small n small'

theorem decimals_inj {width m n : Nat} (fits : m < 10 ^ width) (fits' : n < 10 ^ width) :
    decimals width m = decimals width n ↔ m = n := by
  constructor
  · intro same
    rw [← readDecimals_decimals fits, same, readDecimals_decimals fits']
  · intro same
    rw [same]

theorem decimals_lt {width m n : Nat} (fits : m < 10 ^ width) (fits' : n < 10 ^ width) :
    decimals width m < decimals width n ↔ m < n := by
  induction width generalizing m n with
  | zero =>
    rw [pow_zero] at fits fits'
    simp only [decimals, List.not_lt_nil, false_iff]
    omega
  | succ width ih =>
    rw [pow_succ] at fits fits'
    have front : m / 10 < 10 ^ width := by omega
    have front' : n / 10 < 10 ^ width := by omega
    have widths : (decimals width (m / 10)).length = (decimals width (n / 10)).length := by
      rw [length_decimals, length_decimals]
    have last := digitChar_lt (Nat.mod_lt m (by decide)) (Nat.mod_lt n (by decide))
    rw [decimals, decimals, append_lt_append_iff widths, ih front front', decimals_inj front front',
      List.cons_lt_cons_iff, last]
    simp only [List.not_lt_nil, and_false, or_false]
    omega

/-- A separator and a number of one width are compared before what follows. -/
theorem block_lt {width m n : Nat} (fits : m < 10 ^ width) (fits' : n < 10 ^ width) (c : Char)
    (x y : List Char) :
    (c :: decimals width m) ++ x < (c :: decimals width n) ++ y ↔ m < n ∨ m = n ∧ x < y := by
  have widths : (decimals width m).length = (decimals width n).length := by
    rw [length_decimals, length_decimals]
  rw [List.cons_append, List.cons_append, cons_lt_cons_self_iff, append_lt_append_iff widths,
    decimals_lt fits fits', decimals_inj fits fits']

/-- The digits of a number are those of its front and of its end. -/
theorem decimals_add (front back n : Nat) :
    decimals (front + back) n = decimals front (n / 10 ^ back) ++ decimals back n := by
  induction back generalizing n with
  | zero => simp [decimals]
  | succ back ih =>
    rw [← add_assoc, decimals, ih, decimals, Nat.div_div_eq_div_mul, ← pow_succ', List.append_assoc]

theorem decimals_head (width n : Nat) :
    ∃ c rest, decimals (1 + width) n = c :: rest ∧ '-' < c ∧ c < 'Z' := by
  have all : ∀ d < 10, '-' < Nat.digitChar d ∧ Nat.digitChar d < 'Z' := by decide
  obtain ⟨low, high⟩ := all (n / 10 ^ width % 10) (Nat.mod_lt _ (by decide))
  exact ⟨_, _, decimals_add 1 width n, low, high⟩

/-! ## The parts of a text -/

/-- How a year is written: in four digits, or in six behind a sign. -/
inductive YearForm where
  | plus
  | minus
  | plain
deriving DecidableEq

namespace YearForm

def head : YearForm → List Char
  | plus => ['+']
  | minus => ['-']
  | plain => []

def width : YearForm → Nat
  | plus | minus => 6
  | plain => 4

/-- The order of the texts of different forms. -/
def rank : YearForm → Nat
  | plus => 0
  | minus => 1
  | plain => 2

theorem rank_inj {form form' : YearForm} (same : form.rank = form'.rank) : form = form' := by
  cases form <;> cases form' <;> first | rfl | cases same

/-- The years of a form. -/
def Writes (form : YearForm) (year : Int) : Prop :=
  match form with
  | plus => 0 ≤ year ∧ year ≤ 999999
  | minus => -999999 ≤ year ∧ year < 0
  | plain => 0 ≤ year ∧ year ≤ 9999

end YearForm

/-- A text without an offset is in local time, which is UTC where the program runs. -/
inductive Zone where
  | utc
  | offset (negative : Bool) (hours minutes : Nat)
  | absent
deriving DecidableEq

namespace Zone

def chars : Zone → List Char
  | utc => ['Z']
  | offset negative hours minutes =>
    (if negative then '-' else '+') :: decimals 2 hours ++ ':' :: decimals 2 minutes
  | absent => []

def ms : Zone → Int
  | utc | absent => 0
  | offset negative hours minutes =>
    let ahead : Int := 3600000 * hours + 60000 * minutes
    if negative then -ahead else ahead

theorem chars_lt_iff (zone : Zone) {c : Char} (low : '-' < c) (high : c < 'Z') (x : List Char) :
    (c :: x < zone.chars ↔ zone = utc) ∧ (zone.chars < c :: x ↔ zone ≠ utc) := by
  cases zone with
  | utc =>
    have before : c :: x < utc.chars := cons_lt_cons_of_lt high _ _
    simp [before, before.not_gt]
  | offset negative hours minutes =>
    have sign : (if negative then '-' else '+') < c := by
      split
      · exact low
      · exact lt_trans (by decide) low
    have behind : (offset negative hours minutes).chars < c :: x := cons_lt_cons_of_lt sign _ _
    simp [behind, behind.not_gt]
  | absent => simp [chars]

end Zone

/-- What is written behind the minute. -/
inductive Places where
  | minute
  | second (second : Nat)
  | fraction (second width value : Nat)
deriving DecidableEq

namespace Places

def chars : Places → List Char
  | minute => []
  | second s => ':' :: decimals 2 s
  | fraction s width value => (':' :: decimals 2 s) ++ '.' :: decimals width value

def Valid : Places → Prop
  | minute => True
  | second s => s < 60
  | fraction s width value => s < 60 ∧ 0 < width ∧ value < 10 ^ width

/-- The milliseconds, and what is left of a longer fraction. -/
def exact : Places → ℚ
  | minute => 0
  | second s => 1000 * s
  | fraction s width value => 1000 * s + 1000 * value / 10 ^ width

/-- The whole milliseconds. -/
def ms : Places → Nat
  | minute => 0
  | second s => 1000 * s
  | fraction s width value => 1000 * s + 1000 * value / 10 ^ width

/-- The milliseconds of the last place. -/
def unit : Places → Nat
  | minute => 60000
  | second _ => 1000
  | fraction _ width _ => 1000 / 10 ^ width

end Places

structure Clock where
  hour : Nat
  minute : Nat
  places : Places
  zone : Zone
deriving DecidableEq

def clockHead (hour minute : Nat) : List Char :=
  ('T' :: decimals 2 hour) ++ ':' :: decimals 2 minute

namespace Clock

variable (clock : Clock)

structure Valid : Prop where
  hour : clock.hour < 24
  minute : clock.minute < 60
  places : clock.places.Valid

def chars : List Char :=
  clockHead clock.hour clock.minute ++ (clock.places.chars ++ clock.zone.chars)

/-- The milliseconds of the day that the digits write. -/
def ms : Nat := 3600000 * clock.hour + 60000 * clock.minute + clock.places.ms

/-- How the end of a time's own text compares with the end of this one, when the places that
are written here are the same. -/
def tail : Ordering :=
  if clock.zone = .utc then
    match clock.places with
    | .minute | .second _ => .lt
    | .fraction _ width _ => compare width 3
  else .gt

end Clock

/-- Instants are compared by their blocks first, where neither runs over its own. -/
theorem block_instant_lt {whole k n x y : Int} (inside : 0 ≤ x ∧ x < whole)
    (inside' : 0 ≤ y ∧ y ≤ whole) :
    whole * k + x < whole * n + y ↔ k < n ∨ k = n ∧ x < y := by
  have step : ∀ a b : Int, a < b → whole * a + whole ≤ whole * b := by
    intro a b less
    have scaled := Int.mul_le_mul_of_nonneg_left (show a + 1 ≤ b by omega)
      (show 0 ≤ whole by omega)
    rwa [mul_add, mul_one] at scaled
  rcases lt_trichotomy k n with less | same | more
  · have := step k n less
    omega
  · rw [same]
    omega
  · have := step n k more
    omega

/-- How a text compares with another one, in milliseconds: by its digits up to a unit, and by
its end within it. -/
structure Compares (stored bound : List Char) (ms wall : Int) (unit : Nat) (tail : Ordering) :
    Prop where
  lt : stored < bound ↔ ms < wall + if tail = .lt then unit else 0
  gt : bound < stored ↔ wall + (if tail = .gt then 0 else unit) ≤ ms

namespace Compares

variable {stored bound : List Char} {ms wall : Int} {unit : Nat} {tail : Ordering}

/-- A text in front of both is compared first, and counts in units of what follows it. -/
theorem lift (compares : Compares stored bound ms wall unit tail) (whole : Int)
    {head head' : List Char} {k n : Int}
    (lt : ∀ x y, head ++ x < head' ++ y ↔ k < n ∨ k = n ∧ x < y)
    (gt : ∀ x y, head' ++ x < head ++ y ↔ n < k ∨ n = k ∧ x < y)
    (inside : 0 ≤ ms ∧ ms < whole) (inside' : 0 ≤ wall ∧ wall + unit ≤ whole) :
    Compares (head ++ stored) (head' ++ bound) (whole * k + ms) (whole * n + wall) unit tail := by
  have before : wall + (if tail = .lt then unit else 0) ≤ whole := by split <;> omega
  have behind : wall + (if tail = .gt then 0 else unit) ≤ whole := by split <;> omega
  constructor
  · rw [lt, compares.lt, add_assoc, block_instant_lt inside ⟨by omega, before⟩]
  · rw [gt, compares.gt, add_assoc, ← not_lt, ← not_lt,
      block_instant_lt inside ⟨by omega, behind⟩]
    omega

/-- The unit does not matter to a text whose end comes first. -/
theorem changeUnit (compares : Compares stored bound ms wall unit .gt) (other : Nat) :
    Compares stored bound ms wall other .gt :=
  ⟨compares.lt, compares.gt⟩

/-- A block of one width in front of both. -/
theorem block (compares : Compares stored bound ms wall unit tail) (c : Char) (width : Nat)
    (whole : Int) {m n : Nat} (fits : m < 10 ^ width) (fits' : n < 10 ^ width)
    (inside : 0 ≤ ms ∧ ms < whole)
    (inside' : 0 ≤ wall ∧ wall + unit ≤ whole) :
    Compares ((c :: decimals width m) ++ stored) ((c :: decimals width n) ++ bound)
      (whole * m + ms) (whole * n + wall) unit tail := by
  refine compares.lift whole ?_ ?_ inside inside'
  · intro x y
    rw [block_lt fits fits', Nat.cast_lt, Nat.cast_inj]
  · intro x y
    rw [block_lt fits' fits, Nat.cast_lt, Nat.cast_inj]

/-- Digits, points and colons come behind the signs of offsets and before `Z`. -/
theorem zone (ms : Int) (unit : Nat) (zone : Zone) {c : Char} (low : '-' < c) (high : c < 'Z')
    (x : List Char) (inside : 0 ≤ ms ∧ ms < unit) :
    Compares (c :: x) zone.chars ms 0 unit (if zone = .utc then .lt else .gt) := by
  obtain ⟨before, behind⟩ := zone.chars_lt_iff low high x
  constructor
  · rw [before]
    by_cases utc : zone = .utc <;> simp [utc] <;> omega
  · rw [behind]
    by_cases utc : zone = .utc <;> simp [utc] <;> omega

end Compares

/-- The text behind the minute of a time. -/
def isoPlaces (ms : Nat) : List Char :=
  (':' :: decimals 2 (ms / 1000)) ++ (('.' :: decimals 3 (ms % 1000)) ++ ['Z'])

/-- The clock of a time's own text. -/
def isoClock (msOfDay : Nat) : List Char :=
  clockHead (msOfDay / 3600000) (msOfDay / 60000 % 60) ++ isoPlaces (msOfDay % 60000)

theorem clockHead_lt {hour minute hour' minute' : Nat} (hours : hour < 24) (minutes : minute < 60)
    (hours' : hour' < 24) (minutes' : minute' < 60) (x y : List Char) :
    clockHead hour minute ++ x < clockHead hour' minute' ++ y ↔
      ((60 * hour + minute : Nat) : Int) < (60 * hour' + minute' : Nat) ∨
        ((60 * hour + minute : Nat) : Int) = (60 * hour' + minute' : Nat) ∧ x < y := by
  rw [clockHead, clockHead, List.append_assoc, List.append_assoc,
    block_lt (by omega) (by omega), block_lt (by omega) (by omega)]
  by_cases less : x < y <;> simp only [less, and_true, and_false, or_false] <;> omega

/-- `Z` is compared with an offset, or with more digits. -/
theorem compares_utc (zone : Zone) :
    Compares ['Z'] zone.chars 0 0 1 (if zone = .utc then .eq else .gt) := by
  cases zone with
  | utc => exact ⟨by decide, by decide⟩
  | offset negative hours minutes =>
    have behind : (Zone.offset negative hours minutes).chars < ['Z'] := by
      cases negative <;> exact cons_lt_cons_of_lt (by decide) _ _
    constructor
    · simp [behind.not_gt]
    · simp [behind]
  | absent => exact ⟨by decide, by decide⟩

/-- A fraction of one or two digits, which ends within the digits of the time. -/
theorem compares_short_fraction {ms width more value : Nat} (below : ms < 1000)
    (three : 3 = width + (1 + more)) (fits : value < 10 ^ width) (zone : Zone) :
    Compares (('.' :: decimals 3 ms) ++ ['Z']) (('.' :: decimals width value) ++ zone.chars) ms
      (1000 * value / 10 ^ width : Nat) (1000 / 10 ^ width)
      (if zone = .utc then .lt else .gt) := by
  obtain ⟨c, rest, digits, low, high⟩ := decimals_head more ms
  have thousand : 1000 = 10 ^ width * 10 ^ (1 + more) := by
    rw [← pow_add, ← three]
    rfl
  have front : ms / 10 ^ (1 + more) < 10 ^ width :=
    (Nat.div_lt_iff_lt_mul (Nat.pow_pos (by decide))).mpr (thousand ▸ below)
  have unit : 1000 / 10 ^ width = 10 ^ (1 + more) := by
    rw [thousand]
    exact Nat.mul_div_cancel_left _ (Nat.pow_pos (by decide))
  have value_ms : 1000 * value / 10 ^ width = 10 ^ (1 + more) * value := by
    rw [thousand, mul_assoc]
    exact Nat.mul_div_cancel_left _ (Nat.pow_pos (by decide))
  have inside : 0 ≤ ((ms % 10 ^ (1 + more) : Nat) : Int) ∧
      ((ms % 10 ^ (1 + more) : Nat) : Int) < (10 ^ (1 + more) : Nat) :=
    ⟨by omega, by exact_mod_cast Nat.mod_lt _ (Nat.pow_pos (by decide))⟩
  have ends := Compares.zone (ms % 10 ^ (1 + more) : Nat) (10 ^ (1 + more)) zone
    low high (rest ++ ['Z']) inside
  have read := ends.block '.' width (10 ^ (1 + more) : Nat) front fits inside (by omega)
  have whole : ((10 ^ (1 + more) : Nat) : Int) * (ms / 10 ^ (1 + more) : Nat) +
      (ms % 10 ^ (1 + more) : Nat) = ms := by exact_mod_cast Nat.div_add_mod ms _
  have stored : '.' :: decimals 3 ms =
      ('.' :: decimals width (ms / 10 ^ (1 + more))) ++ decimals (1 + more) ms := by
    rw [three, decimals_add]
    rfl
  rw [whole, add_zero] at read
  rw [unit, stored, digits, value_ms, List.append_assoc]
  exact_mod_cast read

/-- A fraction of more digits than the time has. -/
theorem compares_long_fraction {ms value : Nat} (more : Nat) (below : ms < 1000)
    (fits : value < 10 ^ (3 + (1 + more))) (zone : Zone) :
    Compares (('.' :: decimals 3 ms) ++ ['Z'])
      (('.' :: decimals (3 + (1 + more)) value) ++ zone.chars) ms
      (1000 * value / 10 ^ (3 + (1 + more)) : Nat) (1000 / 10 ^ (3 + (1 + more))) .gt := by
  obtain ⟨c, rest, digits, -, high⟩ := decimals_head more value
  have behind : decimals (1 + more) value ++ zone.chars < ['Z'] := by
    rw [digits]
    exact cons_lt_cons_of_lt high _ _
  have ends : Compares ['Z'] (decimals (1 + more) value ++ zone.chars) 0 0 1 .gt := by
    constructor
    · simp [behind.not_gt]
    · simp [behind]
  rw [pow_add] at fits
  have front : value / 10 ^ (1 + more) < 10 ^ 3 :=
    (Nat.div_lt_iff_lt_mul (Nat.pow_pos (by decide))).mpr fits
  have read := ends.block '.' 3 1 below front (by omega) (by omega)
  have value_ms : 1000 * value / 10 ^ (3 + (1 + more)) = value / 10 ^ (1 + more) := by
    rw [pow_add]
    exact Nat.mul_div_mul_left _ _ (by decide)
  have bound : '.' :: decimals (3 + (1 + more)) value ++ zone.chars =
      ('.' :: decimals 3 (value / 10 ^ (1 + more))) ++
        (decimals (1 + more) value ++ zone.chars) := by
    rw [decimals_add]
    simp
  rw [value_ms, bound]
  simpa using read.changeUnit _

/-- The fraction of a second. -/
theorem compares_fraction {ms width value : Nat} (below : ms < 1000) (some_digit : 0 < width)
    (fits : value < 10 ^ width) (zone : Zone) :
    Compares (('.' :: decimals 3 ms) ++ ['Z']) (('.' :: decimals width value) ++ zone.chars) ms
      (1000 * value / 10 ^ width : Nat) (1000 / 10 ^ width)
      (if zone = .utc then compare width 3 else .gt) := by
  rcases lt_trichotomy width 3 with short | rfl | long
  · obtain ⟨more, three⟩ : ∃ more, 3 = width + (1 + more) := ⟨2 - width, by omega⟩
    have size : compare width 3 = Ordering.lt := Nat.compare_eq_lt.mpr short
    rw [size]
    exact compares_short_fraction below three fits zone
  · have read := (compares_utc zone).block '.' 3 1 below fits (by omega)
      (by omega)
    have value_ms : 1000 * value / 10 ^ 3 = value := by omega
    have size : compare 3 3 = Ordering.eq := rfl
    rw [value_ms, size]
    simpa using read
  · obtain ⟨more, rfl⟩ : ∃ more, width = 3 + (1 + more) := ⟨width - 4, by omega⟩
    have size : compare (3 + (1 + more)) 3 = Ordering.gt := Nat.compare_eq_gt.mpr long
    rw [size, ite_self]
    exact compares_long_fraction more below fits zone

theorem fraction_room {width value : Nat} (fits : value < 10 ^ width) :
    1000 * value / 10 ^ width + 1000 / 10 ^ width ≤ 1000 := by
  have positive : 0 < 10 ^ width := Nat.pow_pos (by decide)
  calc 1000 * value / 10 ^ width + 1000 / 10 ^ width
      ≤ (1000 * value + 1000) / 10 ^ width := Nat.div_add_div_le_add_div
    _ ≤ 1000 * 10 ^ width / 10 ^ width := Nat.div_le_div_right (by omega)
    _ = 1000 := Nat.mul_div_cancel _ positive

/-- What is written behind the minute stays within it. -/
theorem Places.room {places : Places} (valid : places.Valid) :
    places.ms + places.unit ≤ 60000 := by
  cases places with
  | minute => exact le_rfl
  | second s =>
    change s < 60 at valid
    change 1000 * s + 1000 ≤ 60000
    omega
  | fraction s width value =>
    obtain ⟨seconds, -, fits⟩ := valid
    have room := fraction_room fits
    change 1000 * s + 1000 * value / 10 ^ width + 1000 / 10 ^ width ≤ 60000
    omega

theorem compares_places {ms : Nat} (below : ms < 60000) {places : Places} (valid : places.Valid)
    (zone : Zone) :
    Compares (isoPlaces ms) (places.chars ++ zone.chars) ms places.ms places.unit
      (Clock.tail ⟨0, 0, places, zone⟩) := by
  have parts : (1000 * (ms / 1000 : Nat) + (ms % 1000 : Nat) : Int) = ms := by omega
  cases places with
  | minute =>
    exact Compares.zone _ _ zone (by decide) (by decide) _ ⟨by omega, by exact_mod_cast below⟩
  | second s =>
    have ends := Compares.zone (ms % 1000 : Nat) 1000 zone
      (c := '.') (by decide) (by decide) (decimals 3 (ms % 1000) ++ ['Z']) (by omega)
    change s < 60 at valid
    have read := ends.block ':' 2 1000 (m := ms / 1000) (n := s) (by omega) (by omega)
      (by omega) (by omega)
    rw [parts, add_zero] at read
    exact_mod_cast read
  | fraction s width value =>
    obtain ⟨seconds, some_digit, fits⟩ := valid
    have ends := compares_fraction (Nat.mod_lt ms (by decide : 0 < 1000)) some_digit fits zone
    have room := fraction_room fits
    have read := ends.block ':' 2 1000 (m := ms / 1000) (n := s) (by omega) (by omega)
      (by omega) ⟨Int.natCast_nonneg _, by exact_mod_cast room⟩
    rw [parts] at read
    have bound : (Places.fraction s width value).chars ++ zone.chars =
        (':' :: decimals 2 s) ++ (('.' :: decimals width value) ++ zone.chars) := by
      simp [Places.chars]
    rw [bound]
    exact_mod_cast read

namespace Clock

variable {clock : Clock}

theorem Valid.room (valid : clock.Valid) : clock.ms + clock.places.unit ≤ 86400000 := by
  have room := Places.room valid.places
  have hour := valid.hour
  have minute := valid.minute
  unfold Clock.ms
  omega

theorem Valid.compares (valid : clock.Valid) {msOfDay : Nat} (day : msOfDay < 86400000) :
    Compares (isoClock msOfDay) clock.chars msOfDay clock.ms clock.places.unit clock.tail := by
  have ends := compares_places (Nat.mod_lt msOfDay (by decide : 0 < 60000)) valid.places clock.zone
  have room := Places.room valid.places
  have hours := valid.hour
  have minutes := valid.minute
  have read := ends.lift 60000
    (k := (60 * (msOfDay / 3600000) + msOfDay / 60000 % 60 : Nat))
    (n := (60 * clock.hour + clock.minute : Nat))
    (clockHead_lt (by omega) (by omega) hours minutes)
    (clockHead_lt hours minutes (by omega) (by omega)) (by omega) (by omega)
  have stored : (60000 * (60 * (msOfDay / 3600000) + msOfDay / 60000 % 60 : Nat) +
      (msOfDay % 60000 : Nat) : Int) = msOfDay := by omega
  have bound : (60000 * (60 * clock.hour + clock.minute : Nat) + clock.places.ms : Int) =
      clock.ms := by
    unfold Clock.ms
    omega
  rw [stored, bound] at read
  exact read

end Clock

/-! ## Dates -/

/-- A date with its year's digits only. -/
def unsigned (date : CivilDate) : CivilDate := ⟨|date.year|, date.month, date.day⟩

def dateChars (form : YearForm) (date : CivilDate) : List Char :=
  form.head ++ (decimals form.width date.year.natAbs ++
    (('-' :: decimals 2 date.month.toNat) ++ ('-' :: decimals 2 date.day.toNat)))

/-- Dates of one form are compared by their digits. -/
theorem dateChars_lt {form : YearForm} {date date' : CivilDate} (valid : date.Valid)
    (valid' : date'.Valid) (writes : form.Writes date.year) (writes' : form.Writes date'.year)
    (x y : List Char) :
    dateChars form date ++ x < dateChars form date' ++ y ↔
      (unsigned date).toDays < (unsigned date').toDays ∨
        (unsigned date).toDays = (unsigned date').toDays ∧ x < y := by
  have days := valid.abs.toDays_lt_iff valid'.abs
  have same := valid.abs.toDays_inj valid'.abs
  have digits : date.year.natAbs < 10 ^ form.width ∧ date'.year.natAbs < 10 ^ form.width := by
    cases form <;> simp only [YearForm.Writes, YearForm.width] at * <;> omega
  have month := valid.month
  have month' := valid'.month
  have day := valid.day.1
  have day' := valid'.day.1
  have last := valid.day_le
  have last' := valid'.day_le
  have widths : (decimals form.width date.year.natAbs).length =
      (decimals form.width date'.year.natAbs).length := by
    rw [length_decimals, length_decimals]
  rw [dateChars, dateChars, unsigned, unsigned, days, same]
  simp only [List.append_assoc]
  rw [append_lt_append_iff rfl, append_lt_append_iff widths, decimals_lt digits.1 digits.2,
    decimals_inj digits.1 digits.2, block_lt (by omega) (by omega), block_lt (by omega) (by omega)]
  have year : |date.year| = date.year.natAbs := Int.abs_eq_natAbs _
  have year' : |date'.year| = date'.year.natAbs := Int.abs_eq_natAbs _
  rw [year, year']
  simp only [lt_irrefl, false_or, true_and]
  by_cases less : x < y <;> simp only [less, and_true, and_false, or_false] <;> omega

theorem dateChars_rank {form form' : YearForm} (lower : form.rank < form'.rank)
    (date date' : CivilDate) (x y : List Char) :
    dateChars form date ++ x < dateChars form' date' ++ y := by
  have digit : ∀ n, '-' < Nat.digitChar (n % 10) := by
    have all : ∀ d < 10, '-' < Nat.digitChar d := by decide
    exact fun n => all _ (Nat.mod_lt n (by decide))
  cases form <;> cases form' <;> simp [YearForm.rank] at lower
  · exact cons_lt_cons_of_lt (by decide) _ _
  · exact cons_lt_cons_of_lt (lt_trans (by decide) (digit _)) _ _
  · exact cons_lt_cons_of_lt (digit _) _ _

/-! ## Times and timestamps -/

namespace Time

variable (t : Time)

def form : YearForm :=
  if 0 ≤ t.date.year ∧ t.date.year ≤ 9999 then .plain
  else if t.date.year < 0 then .minus
  else .plus

theorem form_writes : t.form.Writes t.date.year := by
  obtain ⟨low, high⟩ := t.year_bounds
  unfold form
  split_ifs <;> simp only [YearForm.Writes] <;> omega

/-- The milliseconds of the date with the year's digits only. -/
def place : Int := (unsigned t.date).toDays * 86400000 + t.msOfDay

/-- Where the text of a time comes: by the form of its year, then by its digits. -/
def position : Nat ×ₗ Int := toLex (t.form.rank, t.place)

theorem isoChars_eq : t.isoChars = dateChars t.form t.date ++ isoClock t.msOfDay := by
  have year : yearChars t.date.year =
      t.form.head ++ decimals t.form.width t.date.year.natAbs := by
    unfold yearChars form
    split_ifs
    case pos plain =>
      have digits : t.date.year.toNat = t.date.year.natAbs := by omega
      rw [digits]
      rfl
    case pos => rfl
    case neg => rfl
  have minute : t.msOfDay % 60000 / 1000 = t.msOfDay / 1000 % 60 := by omega
  have second : t.msOfDay % 60000 % 1000 = t.msOfDay % 1000 := by omega
  rw [isoChars, year, restChars, dateChars, isoClock, clockHead, isoPlaces, minute, second]
  simp

theorem msOfDay_lt : t.msOfDay < 86400000 := by
  unfold msOfDay
  omega

/-- From year 0 on the place of a time is the time. -/
theorem place_eq (natural : 0 ≤ t.date.year) : t.place = t.ms := by
  have same : unsigned t.date = t.date := by
    rw [unsigned, abs_of_nonneg natural]
  have days : t.date.toDays = t.ms / 86400000 := CivilDate.toDays_ofDays _
  rw [place, same, days]
  unfold msOfDay
  omega

end Time

/-- A timestamp in ISO 8601: a date, perhaps with a time of the day. -/
structure IsoTimestamp where
  form : YearForm
  date : CivilDate
  clock : Option Clock
  valid : date.Valid
  writes : form.Writes date.year
  validClock : ∀ clock' ∈ clock, clock'.Valid

namespace IsoTimestamp

variable (stamp : IsoTimestamp)

def chars : List Char := dateChars stamp.form stamp.date ++ (stamp.clock.map Clock.chars).getD []

def text : String := String.ofList stamp.chars

/-- The time the text stands for, in milliseconds. -/
def instant : ℚ :=
  stamp.date.toDays * 86400000 +
    match stamp.clock with
    | some clock =>
      3600000 * clock.hour + 60000 * clock.minute + clock.places.exact - clock.zone.ms
    | none => 0

/-- The milliseconds of the digits, with the year's digits only. -/
def wall : Int :=
  (unsigned stamp.date).toDays * 86400000 + ((stamp.clock.map Clock.ms).getD 0 : Nat)

def unit : Nat := (stamp.clock.map fun clock => clock.places.unit).getD 0

def tail : Ordering := (stamp.clock.map Clock.tail).getD .gt

/-- The first position that is not before the text. -/
def firstSince : Nat ×ₗ Int :=
  toLex (stamp.form.rank, stamp.wall + if stamp.tail = .lt then stamp.unit else 0)

/-- The first position that is behind the text. -/
def pastUntil : Nat ×ₗ Int :=
  toLex (stamp.form.rank, stamp.wall + if stamp.tail = .gt then 0 else stamp.unit)

/-- A timestamp of the same form is compared by its digits. -/
theorem compares (t : Time) (same : t.form = stamp.form) :
    Compares t.isoChars stamp.chars t.place stamp.wall stamp.unit stamp.tail := by
  have writes := t.form_writes
  rw [same] at writes
  have day := t.msOfDay_lt
  have valid := CivilDate.valid_ofDays (t.ms / 86400000)
  have lt := dateChars_lt valid stamp.valid writes stamp.writes
  have gt := dateChars_lt stamp.valid valid stamp.writes writes
  have ends : Compares (isoClock t.msOfDay) ((stamp.clock.map Clock.chars).getD []) t.msOfDay
      ((stamp.clock.map Clock.ms).getD 0 : Nat) stamp.unit stamp.tail := by
    unfold unit tail
    cases found : stamp.clock with
    | none => constructor <;> simp [isoClock, clockHead]
    | some clock => exact (stamp.validClock clock found).compares day
  have room : (stamp.clock.map Clock.ms).getD 0 + stamp.unit ≤ 86400000 := by
    unfold unit
    cases found : stamp.clock with
    | none => decide
    | some clock => exact (stamp.validClock clock found).room
  have read := ends.lift 86400000 lt gt (by omega) (by omega)
  rw [mul_comm, mul_comm (86400000 : Int)] at read
  rw [t.isoChars_eq, same]
  exact read

theorem lt_chars_iff (t : Time) :
    t.isoChars < stamp.chars ↔ t.position < stamp.firstSince := by
  rw [Time.position, firstSince, Prod.Lex.toLex_lt_toLex]
  rcases lt_trichotomy t.form.rank stamp.form.rank with lower | same | higher
  · have before : t.isoChars < stamp.chars := by
      rw [t.isoChars_eq]
      exact dateChars_rank lower _ _ _ _
    exact iff_of_true before (Or.inl lower)
  · rw [(stamp.compares t (YearForm.rank_inj same)).lt]
    simp [same]
  · have behind : stamp.chars < t.isoChars := by
      rw [t.isoChars_eq]
      exact dateChars_rank higher _ _ _ _
    refine iff_of_false behind.not_gt ?_
    rintro (lower | ⟨same, -⟩) <;> simp only at * <;> omega

theorem chars_lt_iff (t : Time) :
    stamp.chars < t.isoChars ↔ stamp.pastUntil ≤ t.position := by
  rw [Time.position, pastUntil, Prod.Lex.toLex_le_toLex]
  rcases lt_trichotomy t.form.rank stamp.form.rank with lower | same | higher
  · have before : t.isoChars < stamp.chars := by
      rw [t.isoChars_eq]
      exact dateChars_rank lower _ _ _ _
    refine iff_of_false before.not_gt ?_
    rintro (higher | ⟨same, -⟩) <;> simp only at * <;> omega
  · rw [(stamp.compares t (YearForm.rank_inj same)).gt]
    simp [same]
  · have behind : stamp.chars < t.isoChars := by
      rw [t.isoChars_eq]
      exact dateChars_rank higher _ _ _ _
    exact iff_of_true behind (Or.inl higher)

/-- The times whose text is not before a timestamp, and those whose text is not behind it. -/
theorem le_iff (t : Time) :
    (stamp.chars ≤ t.isoChars ↔ stamp.firstSince ≤ t.position) ∧
      (t.isoChars ≤ stamp.chars ↔ t.position < stamp.pastUntil) := by
  constructor
  · rw [← not_lt, lt_chars_iff, not_lt]
  · rw [← not_lt, chars_lt_iff, not_le]

end IsoTimestamp

/-- The clock of a time's own text. -/
def Clock.ofMs (msOfDay : Nat) : Clock where
  hour := msOfDay / 3600000
  minute := msOfDay / 60000 % 60
  places := .fraction (msOfDay % 60000 / 1000) 3 (msOfDay % 60000 % 1000)
  zone := .utc

theorem Clock.valid_ofMs {msOfDay : Nat} (day : msOfDay < 86400000) : (ofMs msOfDay).Valid where
  hour := by
    change msOfDay / 3600000 < 24
    omega
  minute := Nat.mod_lt _ (by decide)
  places := by
    change msOfDay % 60000 / 1000 < 60 ∧ 0 < 3 ∧ msOfDay % 60000 % 1000 < 10 ^ 3
    omega

/-- The timestamp that a time is stored as. -/
def Time.stamp (t : Time) : IsoTimestamp where
  form := t.form
  date := t.date
  clock := some (.ofMs t.msOfDay)
  valid := CivilDate.valid_ofDays _
  writes := t.form_writes
  validClock _ same := by
    cases same
    exact Clock.valid_ofMs t.msOfDay_lt

theorem Time.chars_stamp (t : Time) : t.stamp.chars = t.isoChars := by
  rw [t.isoChars_eq]
  simp [stamp, IsoTimestamp.chars, isoClock, isoPlaces, Clock.ofMs, Clock.chars, Places.chars,
    Zone.chars]

theorem Time.instant_stamp (t : Time) : t.stamp.instant = t.ms := by
  have days : t.date.toDays = t.ms / 86400000 := CivilDate.toDays_ofDays _
  have parts : t.ms = t.ms / 86400000 * 86400000 + (3600000 * (t.msOfDay / 3600000 : Nat) +
      60000 * (t.msOfDay / 60000 % 60 : Nat) + 1000 * (t.msOfDay % 60000 / 1000 : Nat) +
      (t.msOfDay % 60000 % 1000 : Nat)) := by
    unfold msOfDay
    omega
  simp only [IsoTimestamp.instant, stamp, Clock.ofMs, Places.exact, Zone.ms, days]
  generalize t.msOfDay / 3600000 = hour at *
  generalize t.msOfDay / 60000 % 60 = minute at *
  generalize t.msOfDay % 60000 / 1000 = second at *
  generalize t.msOfDay % 60000 % 1000 = milli at *
  generalize t.ms / 86400000 = day at *
  rw [parts]
  push_cast
  ring

/-- A time's own text begins and ends at its digits. -/
theorem Time.stamp_spans (t : Time) :
    t.stamp.firstSince = t.position ∧ t.stamp.pastUntil = toLex (t.form.rank, t.place + 1) := by
  have written : (Clock.ofMs t.msOfDay).ms = t.msOfDay := by
    simp only [Clock.ms, Clock.ofMs, Places.ms]
    omega
  have wall : t.stamp.wall = t.place := by
    simp only [IsoTimestamp.wall, stamp, Option.map_some, Option.getD_some, written, place]
  have tail : t.stamp.tail = .eq := rfl
  have unit : t.stamp.unit = 1 := rfl
  rw [IsoTimestamp.firstSince, IsoTimestamp.pastUntil, wall, tail, unit]
  simp [position, stamp]

/-- A time of the years 0 to 9999. -/
def Time.Plain (t : Time) : Prop := 0 ≤ t.date.year ∧ t.date.year ≤ 9999

theorem Time.Plain.form {t : Time} (plain : t.Plain) : t.form = .plain := if_pos plain

theorem Time.Plain.position {t : Time} (plain : t.Plain) :
    t.position = toLex (YearForm.plain.rank, t.ms) := by
  rw [Time.position, plain.form, t.place_eq plain.1]

end KeyCollective
