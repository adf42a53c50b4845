import VellarSdk.Js.Decimal
import VellarSdk.Js.Value

/-!
# Dates

`new Date(ms).toISOString()` for a whole number of milliseconds. The days since the epoch
are counted in eras of 400 years, each beginning with a first of March, so that the day
that a leap year adds is the last of its era's year. A time further than 100 million days
from the epoch is no time, and has no text.

## Main definitions

* `civilFromDays`: The year, the month and the day of a day since the epoch.
* `toISOString`: The text of a time.

## Theorems

* `toISOString_isOk`: The times that have a text.
-/

namespace VellarSdk

namespace Js

/-- The year, the month and the day of a day since the epoch. -/
def civilFromDays (days : Int) : Int × Nat × Nat :=
  -- The count begins on the first of March of the year zero.
  let shifted := days + 719468
  let era := shifted / 146097
  let dayOfEra := (shifted % 146097).toNat
  let yearOfEra := (dayOfEra - dayOfEra / 1460 + dayOfEra / 36524 - dayOfEra / 146096) / 365
  let dayOfYear := dayOfEra - (365 * yearOfEra + yearOfEra / 4 - yearOfEra / 100)
  let monthFromMarch := (5 * dayOfYear + 2) / 153
  let day := dayOfYear - (153 * monthFromMarch + 2) / 5 + 1
  let month := if monthFromMarch < 10 then monthFromMarch + 3 else monthFromMarch - 9
  (yearOfEra + era * 400 + (if month ≤ 2 then 1 else 0), month, day)

/-- A year of an ISO text: four digits, or a sign and six. -/
def isoYear (year : Int) : JsString :=
  if 0 ≤ year ∧ year ≤ 9999 then padStart 4 (natToString year.toNat)
  else (if year < 0 then js "-" else js "+") ++ padStart 6 (natToString year.natAbs)

/-- The furthest a time can be from the epoch, in milliseconds. -/
def maxTime : Nat :=
  8640000000000000

/-- `new Date(ms).toISOString()`. -/
def toISOString (ms : Int) : Except NativeError JsString :=
  if maxTime < ms.natAbs then .error .rangeError
  else
    let (year, month, day) := civilFromDays (ms / 86400000)
    let time := (ms % 86400000).toNat
    .ok (isoYear year ++ js "-" ++ padStart 2 (natToString month) ++ js "-" ++
      padStart 2 (natToString day) ++ js "T" ++ padStart 2 (natToString (time / 3600000)) ++
      js ":" ++ padStart 2 (natToString (time / 60000 % 60)) ++ js ":" ++
      padStart 2 (natToString (time / 1000 % 60)) ++ js "." ++
      padStart 3 (natToString (time % 1000)) ++ js "Z")

example : toISOString 951782400123 = .ok (js "2000-02-29T00:00:00.123Z") := by decide +kernel

example : toISOString (-1) = .ok (js "1969-12-31T23:59:59.999Z") := by decide +kernel

/-- A time has a text unless it is too far from the epoch. -/
theorem toISOString_isOk (ms : Int) : (toISOString ms).isOk = true ↔ ms.natAbs ≤ maxTime := by
  unfold toISOString
  by_cases h : maxTime < ms.natAbs
  · rw [if_pos h]
    exact ⟨fun hok => absurd hok Bool.false_ne_true, fun hle => absurd h (Nat.not_lt.mpr hle)⟩
  · rw [if_neg h]
    exact ⟨fun _ => Nat.not_lt.mp h, fun _ => rfl⟩

end Js

end VellarSdk
