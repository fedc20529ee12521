import KeyCollective.Host

/-!
# Numbers of the host language

A number is a rational, an infinity or no number at all. How a finite number is written as
text is the engine's.
-/

namespace KeyCollective

inductive Number where
  | finite (value : ℚ)
  | infinity
  | negInfinity
  | nan
deriving DecidableEq

/-- `String(x)` of a finite number. -/
class NumberText where
  ofFinite : ℚ → String

/-- The text of a number that is an integer below 10^21. -/
@[reducible] def integerText : NumberText where
  ofFinite value := toString value.num

namespace Number

def text [NumberText] : Number → String
  | .finite value => NumberText.ofFinite value
  | .infinity => "Infinity"
  | .negInfinity => "-Infinity"
  | .nan => "NaN"

/-- `Math.trunc`. -/
def trunc : Number → Number
  | .finite value => .finite (value.num.tdiv value.den)
  | x => x

/-- `Math.max(0, x)`. -/
def max0 : Number → Number
  | .finite value => .finite (max 0 value)
  | .infinity => .infinity
  | .negInfinity => .finite 0
  | .nan => .nan

/-- What an `INTEGER NOT NULL` column takes of a truncated number. -/
def column : Number → Option Int
  | .finite value => some value.num
  | _ => none

/-- The number nearest to an integer. -/
def ofInt (n : Int) : Number :=
  if n.natAbs < 2 ^ 1024 - 2 ^ 970 then .finite (numberOfBigInt n)
  else if 0 < n then .infinity
  else .negInfinity

/-- Finite sums are exact. -/
def add : Number → Number → Number
  | .finite x, .finite y => .finite (x + y)
  | .nan, _ | _, .nan => .nan
  | .infinity, .negInfinity | .negInfinity, .infinity => .nan
  | .infinity, _ | _, .infinity => .infinity
  | .negInfinity, _ | _, .negInfinity => .negInfinity

/-- `x > 0`. -/
def isPositive : Number → Bool
  | .finite value => 0 < value
  | .infinity => true
  | .negInfinity | .nan => false

/-- `x >= bound`. -/
def atLeast (bound : ℚ) : Number → Bool
  | .finite value => bound ≤ value
  | .infinity => true
  | .negInfinity | .nan => false

/-- `x > bound`. -/
def above (bound : ℚ) : Number → Bool
  | .finite value => bound < value
  | .infinity => true
  | .negInfinity | .nan => false

/-- `x <= bound`. -/
def atMost (bound : ℚ) : Number → Bool
  | .finite value => value ≤ bound
  | .negInfinity => true
  | .infinity | .nan => false

/-- `x < bound`. -/
def below (bound : ℚ) : Number → Bool
  | .finite value => value < bound
  | .negInfinity => true
  | .infinity | .nan => false

end Number

/-- `Number(s)`. -/
class NumberReader where
  toNumber : String → Number

/-- The number of a text of at most decimal digits, as every engine reads it. -/
@[reducible] def decimalReader : NumberReader where
  toNumber s :=
    if s.toList.all Char.isDigit then
      .ofInt (s.toList.foldl (fun value c => 10 * value + (c.toNat - 48)) 0)
    else .nan

end KeyCollective
