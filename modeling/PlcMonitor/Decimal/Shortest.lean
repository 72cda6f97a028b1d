import PlcMonitor.Decimal.Binary

/-! The shortest decimal that reads back to a binary floating-point number, and of the shortest
ones the nearest. All comparisons are exact, in whole numbers. -/
namespace PlcMonitor.Decimal

structure Dec where
  digits : Nat
  exponent : Int
deriving DecidableEq, Repr

inductive Tie where
  | toEven
  | up
deriving DecidableEq, Repr

def compareScaled (a : Nat) (i : Int) (n : Nat) (j : Int) : Ordering :=
  compare (a * Nat.pow 10 i.toNat * Nat.pow 2 (-j).toNat)
    (n * Nat.pow 2 j.toNat * Nat.pow 10 (-i).toNat)

/-- The decimal lies among the reals that round to the number: between the halfway points to its
neighbours, these included when the mantissa is even. -/
def Binary.readsBack (x : Binary) (d : Dec) : Bool :=
  let low := if x.narrowBelow then 4 * x.mantissa - 1 else 4 * x.mantissa - 2
  let high := 4 * x.mantissa + 2
  let inclusive := x.mantissa % 2 = 0
  let belowHigh := compareScaled d.digits d.exponent high (x.exponent - 2)
  let aboveLow := compareScaled d.digits d.exponent low (x.exponent - 2)
  (aboveLow = .gt || (inclusive && aboveLow = .eq)) &&
    (belowHigh = .lt || (inclusive && belowHigh = .eq))

def Binary.scale (x : Binary) : Int :=
  let estimate := ((x.mantissa.log2 : Int) + x.exponent) * 30103 / 100000 - 1
  let candidates := (List.range 5).map fun (step : Nat) => estimate + (step : Int)
  (candidates.find? fun k => compareScaled 1 k x.mantissa x.exponent = .gt).getD (estimate + 5)

def Binary.floorOn (x : Binary) (exponent : Int) : Nat :=
  (x.mantissa * Nat.pow 2 x.exponent.toNat * Nat.pow 10 (-exponent).toNat) /
    (Nat.pow 2 (-x.exponent).toNat * Nat.pow 10 exponent.toNat)

def Binary.onGrid (x : Binary) (tie : Tie) (exponent : Int) : Option Dec :=
  let floor := x.floorOn exponent
  let below : Dec := ⟨floor, exponent⟩
  let above : Dec := ⟨floor + 1, exponent⟩
  match x.readsBack below, x.readsBack above with
  | false, false => none
  | true, false => some below
  | false, true => some above
  | true, true =>
    match compareScaled (2 * floor + 1) exponent (2 * x.mantissa) x.exponent, tie with
    | .gt, _ => some below
    | .lt, _ => some above
    | .eq, .up => some above
    | .eq, .toEven => some (if floor % 2 = 0 then below else above)

def Binary.exact (x : Binary) : Dec :=
  ⟨x.mantissa * Nat.pow 2 x.exponent.toNat * Nat.pow 5 (-x.exponent).toNat, min x.exponent 0⟩

def stripZeros : Nat → Dec → Dec
  | 0, d => d
  | fuel + 1, d =>
    if d.digits ≠ 0 ∧ d.digits % 10 = 0 then stripZeros fuel ⟨d.digits / 10, d.exponent + 1⟩ else d

/-- Grids of one to seventeen digits are tried in turn. -/
def Binary.shortest (x : Binary) (tie : Tie) : Dec :=
  if x.mantissa = 0 then ⟨0, 0⟩
  else
    let scale := x.scale
    let grids := (List.range 17).map fun (step : Nat) => scale - 1 - (step : Int)
    let chosen := (grids.findSome? (x.onGrid tie)).getD x.exact
    stripZeros chosen.digits.log2 chosen

end PlcMonitor.Decimal
