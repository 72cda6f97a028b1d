import PlcMonitor.Text.Blank

/-! Times of day, to the nanosecond. A leap second lies behind the last nanosecond of the second
before it. -/
namespace PlcMonitor

structure TimeOfDay where
  second : Nat
  nano : Nat
deriving DecidableEq, Repr

namespace TimeOfDay

def before (a b : TimeOfDay) : Bool :=
  a.second < b.second || (a.second = b.second && a.nano < b.nano)

def ofClock (hour minute second : Nat) : Option TimeOfDay :=
  if hour < 24 ∧ minute < 60 ∧ second ≤ 60 then
    if second = 60 then some ⟨3600 * hour + 60 * minute + 59, 1000000000⟩
    else some ⟨3600 * hour + 60 * minute + second, 0⟩
  else
    none

def number? (cs : List Char) : Option (Nat × List Char) :=
  let digit (c : Char) : Nat := c.toNat - '0'.toNat
  match Text.skipBlanks cs with
  | a :: b :: rest =>
    if a.isDigit then
      if b.isDigit then some (10 * digit a + digit b, rest) else some (digit a, b :: rest)
    else none
  | [a] => if a.isDigit then some (digit a, []) else none
  | [] => none

def next? : List Char → Option (Nat × List Char)
  | ':' :: rest => number? rest
  | _ => none

def parse? (cs : List Char) : Option TimeOfDay := do
  let (hour, rest) ← number? cs
  let (minute, rest) ← next? rest
  if rest = [] then ofClock hour minute 0
  else
    let (second, rest) ← next? rest
    if rest = [] then ofClock hour minute second else none

def twoDigits (n : Nat) : List Char :=
  [Char.ofNat (48 + n / 10 % 10), Char.ofNat (48 + n % 10)]

def write (time : TimeOfDay) : String :=
  String.ofList (twoDigits (time.second / 3600) ++ [':'] ++ twoDigits (time.second / 60 % 60) ++
    [':'] ++ twoDigits (time.second % 60 + time.nano / 1000000000))

end TimeOfDay
end PlcMonitor
