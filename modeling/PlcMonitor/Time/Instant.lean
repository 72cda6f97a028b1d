import PlcMonitor.Time.Calendar
import PlcMonitor.Time.OfDay

/-! Instants of universal time. -/
namespace PlcMonitor

structure Instant where
  /-- Seconds since the beginning of 1970. -/
  second : Int
  /-- Nanoseconds, a thousand million and more within a leap second. -/
  nano : Nat
deriving DecidableEq, Repr

namespace Instant

def before (a b : Instant) : Bool :=
  a.second < b.second || (a.second = b.second && a.nano < b.nano)

def timeOfDay (instant : Instant) (offset : Int) : TimeOfDay :=
  ⟨((instant.second + offset) % 86400).toNat, instant.nano⟩

def digits? (count : Nat) (cs : List Char) : Option (Nat × List Char) :=
  let head := cs.take count
  if head.length = count ∧ head.all Char.isDigit then
    some (head.foldl (fun value c => 10 * value + (c.toNat - '0'.toNat)) 0, cs.drop count)
  else
    none

def mark? (mark : Char) : List Char → Option (List Char)
  | c :: rest => if c = mark then some rest else none
  | [] => none

def fraction (digits : List Char) : Nat :=
  ((digits ++ List.replicate 9 '0').take 9).foldl
    (fun value c => 10 * value + (c.toNat - '0'.toNat)) 0

/-- `YYYY-MM-DDTHH:MM:SSZ`, perhaps with a fraction of a second. -/
def parse? (s : String) : Option Instant := do
  let (year, rest) ← digits? 4 s.toList
  let (month, rest) ← digits? 2 (← mark? '-' rest)
  let (day, rest) ← digits? 2 (← mark? '-' rest)
  let (hour, rest) ← digits? 2 (← mark? 'T' rest)
  let (minute, rest) ← digits? 2 (← mark? ':' rest)
  let (second, rest) ← digits? 2 (← mark? ':' rest)
  let (nano, rest) := match rest with
    | '.' :: rest => (fraction (rest.takeWhile Char.isDigit), rest.dropWhile Char.isDigit)
    | rest => (0, rest)
  if rest ≠ ['Z'] then none
  let time ← TimeOfDay.ofClock hour minute second
  return ⟨Calendar.dayNumber year month day * 86400 + time.second, time.nano + nano⟩

def padded (width n : Nat) : String :=
  let digits := toString n
  String.ofList (List.replicate (width - digits.length) '0') ++ digits

/-- Three, six or nine digits, the fewest that are exact; none for a whole second. -/
def fractionText (nano : Nat) : String :=
  let nano := nano % 1000000000
  if nano = 0 then ""
  else if nano % 1000000 = 0 then "." ++ padded 3 (nano / 1000000)
  else if nano % 1000 = 0 then "." ++ padded 6 (nano / 1000)
  else "." ++ padded 9 nano

def write (instant : Instant) : String :=
  let date := Calendar.dateOf (instant.second / 86400)
  let time := instant.timeOfDay 0
  padded 4 date.year.toNat ++ "-" ++ padded 2 date.month ++ "-" ++ padded 2 date.day ++ "T" ++
    time.write ++ fractionText time.nano ++ "Z"

end Instant

/-- What clocks show in the zones that are known by name. -/
abbrev Clocks := String → Option (Instant → TimeOfDay)

/-- By universal time if no zone is named, or none that is known. -/
def Clocks.localTime (clocks : Clocks) (zone : Option String) (now : Instant) : TimeOfDay :=
  match zone.bind clocks with
  | some shown => shown now
  | none => now.timeOfDay 0

end PlcMonitor
