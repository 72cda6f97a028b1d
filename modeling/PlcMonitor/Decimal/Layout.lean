import PlcMonitor.Decimal.Shortest

/-! Writing a shortest decimal: positionally or with an exponent, as a layout decides. -/
namespace PlcMonitor.Decimal

structure Layout where
  /-- Exponents of the leading digit that are written positionally, from and below; all if absent. -/
  plain : Option (Int × Int)
  /-- Whole numbers keep a point and a zero. -/
  pointZero : Bool
  tie : Tie
  nan : String
  infinity : String

namespace Layout

def zeros (n : Nat) : String := String.ofList (List.replicate n '0')

/-- The digits with the point behind the first `point` of them; zeros fill up at either end. -/
def positional (layout : Layout) (digits : String) (point : Int) : String :=
  let length : Int := digits.length
  if length ≤ point then
    digits ++ zeros (point - length).toNat ++ (if layout.pointZero then ".0" else "")
  else if 0 < point then
    let cs := digits.toList
    String.ofList (cs.take point.toNat) ++ "." ++ String.ofList (cs.drop point.toNat)
  else
    "0." ++ zeros (-point).toNat ++ digits

def scientific (digits : String) (exponent : Int) : String :=
  match digits.toList with
  | [] => ""
  | [d] => String.ofList [d] ++ "e" ++ toString exponent
  | d :: ds => String.ofList [d] ++ "." ++ String.ofList ds ++ "e" ++ toString exponent

def isPlain (layout : Layout) (exponent : Int) : Bool :=
  match layout.plain with
  | none => true
  | some (low, high) => low ≤ exponent && exponent < high

def decimal (layout : Layout) (d : Dec) : String :=
  if d.digits = 0 then layout.positional "0" 1
  else
    let digits := toString d.digits
    let point := (digits.length : Int) + d.exponent
    if layout.isPlain (point - 1) then layout.positional digits point
    else scientific digits (point - 1)

def write (layout : Layout) (format : Format) (bits : Nat) : String :=
  let sign := if format.isNegative bits then "-" else ""
  match format.read bits with
  | .nan => layout.nan
  | .infinite => sign ++ layout.infinity
  | .finite size => sign ++ layout.decimal (size.shortest layout.tie)

end Layout

def inFull : Layout where
  plain := none
  pointZero := false
  tie := .up
  nan := "NaN"
  infinity := "inf"

/-- Numbers of documents: whole ones keep a point, very large and very small ones take an
exponent. -/
def inDocuments : Layout where
  plain := some (-5, 16)
  pointZero := true
  tie := .toEven
  nan := ".nan"
  infinity := ".inf"

end PlcMonitor.Decimal
