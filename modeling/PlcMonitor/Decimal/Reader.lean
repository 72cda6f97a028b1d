/-! Decimal texts as doubles, rounded once. -/
namespace PlcMonitor.Decimal

def digitsToNat (cs : List Char) : Nat :=
  cs.foldl (fun value c => 10 * value + (c.toNat - '0'.toNat)) 0

def exponent? : List Char → Option Int
  | '-' :: cs => if cs ≠ [] ∧ cs.all Char.isDigit then some (-(digitsToNat cs : Int)) else none
  | '+' :: cs => if cs ≠ [] ∧ cs.all Char.isDigit then some (digitsToNat cs) else none
  | cs => if cs ≠ [] ∧ cs.all Char.isDigit then some (digitsToNat cs) else none

/-- `digits * 10 ^ exponent`, rounded to nearest. Beyond the range of a double's decimal exponents
nothing but the sign of the excess counts. -/
def nearest (digits : Nat) (exponent : Int) : Float :=
  if digits = 0 then 0.0
  else
    let leading := (Nat.log2 digits : Int) * 30103 / 100000 + exponent
    if 400 < leading then 1.0 / 0.0
    else if leading < -400 then 0.0
    else Float.ofScientific digits (exponent < 0) exponent.natAbs

def unsigned? (cs : List Char) : Option Float :=
  let whole := cs.takeWhile Char.isDigit
  let rest := cs.dropWhile Char.isDigit
  let (fraction, rest) := match rest with
    | '.' :: rest => (rest.takeWhile Char.isDigit, rest.dropWhile Char.isDigit)
    | rest => ([], rest)
  if whole = [] ∧ fraction = [] then none
  else
    let digits := digitsToNat (whole ++ fraction)
    let shift : Int := -(fraction.length : Int)
    match rest with
    | [] => some (nearest digits shift)
    | mark :: rest =>
      if mark = 'e' ∨ mark = 'E' then
        (exponent? rest).map fun exponent => nearest digits (exponent + shift)
      else
        none

def signed? : List Char → Option Float
  | '-' :: cs => (unsigned? cs).map fun x => -x
  | '+' :: cs => unsigned? cs
  | cs => unsigned? cs

end PlcMonitor.Decimal
