import Mathlib.Init

/-!
# Points in time

Go's `time.Time` is an instant together with a location. Comparisons look at
the instant only; formatting a date looks at the wall clock of the location.
The zero value, midnight of January 1 of year 1 in UTC, stands for "not set".
-/

namespace CoreBanking

/-- A `time.Time`: nanoseconds since the zero time, and the offset of the
location from UTC in seconds. -/
structure Time where
  ns : Int
  offset : Int
deriving DecidableEq, Repr

namespace Time

/-- The zero value of `time.Time`. -/
def zero : Time := ⟨0, 0⟩

def IsZero (t : Time) : Prop := t.ns = 0

instance (t : Time) : Decidable t.IsZero := inferInstanceAs (Decidable (_ = _))

def Before (t u : Time) : Prop := t.ns < u.ns

instance (t u : Time) : Decidable (t.Before u) :=
  inferInstanceAs (Decidable (_ < _))

/-- `Equal`: the same instant, in whatever locations. -/
def Equal (t u : Time) : Prop := t.ns = u.ns

instance (t u : Time) : Decidable (t.Equal u) :=
  inferInstanceAs (Decidable (_ = _))

/-- `Add`: the instant `d` nanoseconds later, in the same location. -/
def add (t : Time) (d : Int) : Time := { t with ns := t.ns + d }

/-- `time.Hour` in nanoseconds. -/
def hour : Int := 3600 * 1000000000

/-- The calendar day of `t` on the clock of its location, counted from
January 1 of year 1. `Format("2006-01-02")` writes this day, and writes
different days differently. -/
def dateKey (t : Time) : Int :=
  (t.ns + t.offset * 1000000000) / (24 * hour)

/-- The last nanosecond of the calendar day of `t`, in its location. -/
def endOfDay (t : Time) : Time where
  ns := (t.dateKey + 1) * (24 * hour) - t.offset * 1000000000 - 1
  offset := t.offset

end Time

/-- A reading of the clock, `time.Now()`: it is past the zero time. -/
structure Clock where
  now : Time
  set : 0 < now.ns

end CoreBanking
