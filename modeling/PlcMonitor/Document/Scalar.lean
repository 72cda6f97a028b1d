import PlcMonitor.Document.Basic
import PlcMonitor.Decimal.Reader

/-! What a plain scalar, one written without quotes, stands for. -/
namespace PlcMonitor.Scalar

def isNullWord (s : String) : Bool := s = "~" || s = "null" || s = "Null" || s = "NULL"

def isNull (s : String) : Bool := s = "" || isNullWord s

def bool? (s : String) : Option Bool :=
  match s with
  | "true" | "True" | "TRUE" => some true
  | "false" | "False" | "FALSE" => some false
  | _ => none

def digitValue (c : Char) : Nat :=
  if c.isDigit then c.toNat - '0'.toNat
  else if 'a' ≤ c ∧ c ≤ 'f' then c.toNat - 'a'.toNat + 10
  else if 'A' ≤ c ∧ c ≤ 'F' then c.toNat - 'A'.toNat + 10
  else 16

def inBase? (base : Nat) (cs : List Char) : Option Nat :=
  if cs ≠ [] ∧ cs.all (digitValue · < base) then
    some (cs.foldl (fun value c => base * value + digitValue c) 0)
  else
    none

/-- Digits behind a leading zero are no number but a text, such as a postal code. -/
def isZeroLed (cs : List Char) : Bool :=
  let digits := match cs with
    | '-' :: rest => rest
    | '+' :: rest => rest
    | rest => rest
  match digits with
  | '0' :: next :: rest => next.isDigit && rest.all Char.isDigit
  | _ => false

def magnitude? (cs : List Char) : Option Nat :=
  match cs with
  | '0' :: 'x' :: rest => inBase? 16 rest
  | '0' :: 'o' :: rest => inBase? 8 rest
  | '0' :: 'b' :: rest => inBase? 2 rest
  | _ => if isZeroLed cs then none else inBase? 10 cs

def natural? (s : String) : Option Nat :=
  match s.toList with
  | '+' :: cs => magnitude? cs
  | cs => magnitude? cs

def negative? (s : String) : Option Int :=
  match s.toList with
  | '-' :: cs => (magnitude? cs).map fun n => -(n : Int)
  | _ => none

def float? (s : String) : Option Float :=
  match s with
  | ".inf" | ".Inf" | ".INF" | "+.inf" | "+.Inf" | "+.INF" => some (1.0 / 0.0)
  | "-.inf" | "-.Inf" | "-.INF" => some (-1.0 / 0.0)
  | ".nan" | ".NaN" | ".NAN" => some (0.0 / 0.0)
  | _ =>
    let signed := match s.toList with
      | '+' :: '+' :: _ => none
      | '+' :: '-' :: _ => none
      | cs => Decimal.signed? cs
    signed.filter Float.isFinite

/-- The whole number that a scalar writes: nothing if it writes none, and a refusal if it is too
wide for sixty-four bits but not for a hundred and twenty-eight. -/
def whole? (s : String) : Option (Option Int) :=
  match natural? s with
  | some n =>
    if n < UInt64.size then some (some n) else if n < Nat.pow 2 128 then some none else none
  | none =>
    match negative? s with
    | some i =>
      if Int64.minValue.toInt ≤ i then some (some i)
      else if -(Nat.pow 2 127 : Int) ≤ i then some none else none
    | none => none

def resolve (s : String) : Option Document :=
  if isNull s then some .null
  else match bool? s with
    | some b => some (.bool b)
    | none =>
      match whole? s with
      | some (some i) => some (.int i)
      | some none => none
      | none =>
        if isZeroLed s.toList then some (.text s)
        else match float? s with
          | some x => some (.float x)
          | none => some (.text s)

end PlcMonitor.Scalar
