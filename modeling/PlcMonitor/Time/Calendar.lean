/-! The civil calendar as a count of days since the first of January 1970. -/
namespace PlcMonitor.Calendar

/-- Years are taken to begin in March, so that the leap day ends them. -/
def dayNumber (year : Int) (month day : Nat) : Int :=
  let y := if month ≤ 2 then year - 1 else year
  let era := y / 400
  let yearOfEra := y - era * 400
  let shifted : Int := (if month ≤ 2 then month + 9 else month - 3 : Nat)
  let dayOfYear := (153 * shifted + 2) / 5 + day - 1
  let dayOfEra := yearOfEra * 365 + yearOfEra / 4 - yearOfEra / 100 + dayOfYear
  era * 146097 + dayOfEra - 719468

structure Date where
  year : Int
  month : Nat
  day : Nat
deriving DecidableEq, Repr

def dateOf (number : Int) : Date :=
  let z := number + 719468
  let era := z / 146097
  let dayOfEra := z - era * 146097
  let yearOfEra := (dayOfEra - dayOfEra / 1460 + dayOfEra / 36524 - dayOfEra / 146096) / 365
  let dayOfYear := dayOfEra - (365 * yearOfEra + yearOfEra / 4 - yearOfEra / 100)
  let shifted := (5 * dayOfYear + 2) / 153
  let day := dayOfYear - (153 * shifted + 2) / 5 + 1
  let month := if shifted < 10 then shifted + 3 else shifted - 9
  ⟨yearOfEra + era * 400 + (if month ≤ 2 then 1 else 0), month.toNat, day.toNat⟩

def weekday (number : Int) : Nat := ((number + 4) % 7).toNat

/-- The `ordinal`-th Sunday of a month, counted from 1; the last one for 0. -/
def sunday (year : Int) (month ordinal : Nat) : Int :=
  let next := if month = 12 then dayNumber (year + 1) 1 1 else dayNumber year (month + 1) 1
  if ordinal = 0 then
    next - 1 - weekday (next - 1)
  else
    let first := dayNumber year month 1
    first + ((7 - weekday first) % 7 : Nat) + 7 * (ordinal - 1 : Nat)

end PlcMonitor.Calendar
