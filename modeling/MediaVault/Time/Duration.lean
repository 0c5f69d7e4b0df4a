/-!
# Lengths of time

A duration is a number of nanoseconds.  Seconds and milliseconds are rounded
down.
-/

namespace MediaVault

/-- A length of time. -/
structure Duration where
  nanoseconds : Nat
deriving Repr, DecidableEq, Inhabited

namespace Duration

/-- Nanoseconds in a second. -/
def perSecond : Nat := 1000000000

/-- `n` seconds. -/
def ofSeconds (n : Nat) : Duration := ⟨n * perSecond⟩

/-- Whole seconds. -/
def seconds (d : Duration) : Nat := d.nanoseconds / perSecond

/-- What is left over the whole seconds. -/
def subsecond (d : Duration) : Nat := d.nanoseconds % perSecond

/-- Whole milliseconds. -/
def milliseconds (d : Duration) : Nat := d.nanoseconds / 1000000

/-- The shorter of two durations. -/
def shorter (a b : Duration) : Duration := ⟨min a.nanoseconds b.nanoseconds⟩

/-- No time at all. -/
def isZero (d : Duration) : Bool := d.nanoseconds == 0

theorem seconds_ofSeconds (n : Nat) : (ofSeconds n).seconds = n := by
  simp only [seconds, ofSeconds]
  exact Nat.mul_div_cancel n (by decide)

end Duration

end MediaVault
