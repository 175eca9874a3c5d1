import LabelPress.Binary64.Nearest
import LabelPress.Calendar

/-!
# Timestamps

A clock gives the seconds since the start of 1970 as a double. They are rounded to microseconds, a half to the
even neighbour, after the fraction has been scaled as a double itself.
-/

namespace LabelPress.Log

/-- Why seconds have no date. -/
inductive TimeFault where
  | undefined
  /-- Past the seconds that a word of 64 bits holds. -/
  | beyondWord
  /-- Past the years that a word of 32 bits holds. -/
  | beyondYears
  | calendar (fault : CalendarFault)
  deriving DecidableEq, Repr

/-- The wording of a fault. -/
def TimeFault.message : TimeFault → String
  | .undefined => "Invalid value NaN (not a number)"
  | .beyondWord => "timestamp out of range for platform time_t"
  | .beyondYears => "[Errno 75] Value too large for defined data type"
  | .calendar fault => fault.message

namespace Timestamp

/-- The microseconds nearest to the magnitude of a number of seconds. -/
def magnitudeMicroseconds (num den : Nat) : Nat :=
  let fraction := Binary64.ofRatio false (num % den) den
  let scaled := match fraction.mul (Binary64.ofInt 1000000) with
    | .finite _ m e =>
      let (n, d) := Binary64.magnitude m e
      nearestEven n d
    | _ => 0
  num / den * 1000000 + scaled

/-- The microseconds nearest to a number of seconds. -/
def microseconds : Binary64 → Except TimeFault Int
  | .nan => .error .undefined
  | .infinite _ => .error .beyondWord
  | .finite negative m e =>
    let (num, den) := Binary64.magnitude m e
    let whole : Int := if negative then -(num / den : Nat) else (num / den : Nat)
    if whole < -wordLimit ∨ wordLimit ≤ whole then .error .beyondWord
    else
      let total : Int := magnitudeMicroseconds num den
      .ok (if negative then -total else total)

/-- The least and the greatest number of seconds whose year fits in a word of 32 bits. -/
def yearBounds : Int × Int := (-67768040609740800, 67768036191676799)

/-- A day in microseconds. -/
def day : Int := 86400000000

/-- The moment of a number of seconds in universal time or, without an offset, by the local clock, which is
that of universal time here. The local clock is looked at a day earlier too, in case it was changed since. -/
def moment (seconds : Binary64) (universal : Bool) : Except TimeFault Moment := do
  let total ← microseconds seconds
  let whole := Int.fdiv total 1000000
  if whole < yearBounds.1 ∨ yearBounds.2 < whole then throw .beyondYears
  let m ← (Moment.ofMicroseconds total).mapError .calendar
  if universal then return m
  else
    let _ ← (Moment.ofMicroseconds (total - day)).mapError .calendar
    return { m with offset := none }

end Timestamp
end LabelPress.Log
