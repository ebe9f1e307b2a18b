/-!
# Points in time and the clock

A time is a number of milliseconds since the epoch, within the years that a calendar date of chrono can
have. A clock hands out one time after the other.

## Results

* `ofMillis?_millis` — a time is told by its milliseconds.
-/

set_option autoImplicit false

namespace SymbolRelay

/-- The earliest time, in milliseconds since the epoch. -/
def earliestMillis : Int := -8334601228800000

/-- The latest time, in milliseconds since the epoch. -/
def latestMillis : Int := 8210266876799999

/-- A point in time. -/
structure Time where
  millis : Int
  earliest_le : earliestMillis ≤ millis
  le_latest : millis ≤ latestMillis
  deriving DecidableEq

namespace Time

/-- The time at so many milliseconds since the epoch, if there is one. -/
def ofMillis? (n : Int) : Option Time :=
  if h : earliestMillis ≤ n ∧ n ≤ latestMillis then some ⟨n, h.1, h.2⟩ else none

/-- The beginning of the epoch. -/
def epoch : Time := ⟨0, by decide, by decide⟩

instance : Inhabited Time := ⟨epoch⟩

/-- The next millisecond; the latest time has none after it and stays. -/
def next (t : Time) : Time :=
  if h : t.millis + 1 ≤ latestMillis then
    ⟨t.millis + 1, Int.le_trans t.earliest_le (by omega), h⟩
  else t

theorem ofMillis?_millis (t : Time) : ofMillis? t.millis = some t := by
  simp [ofMillis?, t.earliest_le, t.le_latest]

end Time

/-- A clock that moves on by a millisecond whenever it is read. -/
structure Clock where
  now : Time
  deriving DecidableEq, Inhabited

/-- Reads the clock. -/
def Clock.read (c : Clock) : Time × Clock := (c.now, ⟨c.now.next⟩)

end SymbolRelay
