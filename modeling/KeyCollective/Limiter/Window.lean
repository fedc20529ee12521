import KeyCollective.Constants
import KeyCollective.Lib.SlidingWindow
import Mathlib.Algebra.Order.Group.Int
import Mathlib.Algebra.Order.Group.Nat

/-!
# The limiter's window arithmetic

Times are milliseconds. Costs are microdollars; the source stores them as
decimal strings, here they are the integers those strings denote.
-/

namespace KeyCollective

open SlidingWindow

/-- Requests counted in one millisecond. -/
structure RateLimitEntry where
  timestamp : Int
  count : Nat
  costMicrodollars : Int
deriving DecidableEq, Repr

structure RateLimiterData where
  entries : List RateLimitEntry
  totalCostMicrodollars : Int
  lastRequestTime : Option Int
deriving DecidableEq, Repr

def createDefaultRateLimiterData : RateLimiterData := ⟨[], 0, none⟩

def RateLimitEntry.gauge : Gauge RateLimitEntry Int Nat := ⟨timestamp, count⟩

def pruneExpiredEntries (data : RateLimiterData) (now dayWindowMs : Int) : RateLimiterData :=
  { data with entries := data.entries.filter fun entry => now - dayWindowMs < entry.timestamp }

/-- Counts back from the newest entry and stops at the first one outside the window. -/
def calculateRpm (data : RateLimiterData) (now windowSizeMs : Int) : Nat :=
  RateLimitEntry.gauge.sumBack (now - windowSizeMs) data.entries.reverse 0

/-- Counts every entry inside the window. -/
def calculateRpd (data : RateLimiterData) (now dayWindowMs : Int) : Nat :=
  RateLimitEntry.gauge.sumAfter (now - dayWindowMs) data.entries

/-- `Math.ceil(ms / 1000)` for a positive delay, one second otherwise. -/
def ceilSeconds (remainingMs : Int) : Nat :=
  if 0 < remainingMs then ((remainingMs + 999) / 1000).toNat else 1

/-- Seconds until the oldest entry in the window slides out. -/
def calculateRetryAfter (data : RateLimiterData) (now windowMs : Int) : Nat :=
  match data.entries.find? fun entry => now - windowMs < entry.timestamp with
  | some entry => ceilSeconds (entry.timestamp + windowMs - now)
  | none => defaultRetryAfterSeconds

def calculateRpmRetryAfter (data : RateLimiterData) (now windowSizeMs : Int) : Nat :=
  calculateRetryAfter data now windowSizeMs

def calculateRpdRetryAfter (data : RateLimiterData) (now dayWindowMs : Int) : Nat :=
  calculateRetryAfter data now dayWindowMs

theorem calculateRpm_eq {data : RateLimiterData} {now windowSizeMs : Int}
    (sorted : RateLimitEntry.gauge.Chronological data.entries) :
    calculateRpm data now windowSizeMs =
      RateLimitEntry.gauge.sumAfter (now - windowSizeMs) data.entries :=
  Gauge.sumBack_reverse _ sorted

end KeyCollective
