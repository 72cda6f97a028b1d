/-! Binary floating-point numbers as whole numbers times powers of two, read off their bits. -/
namespace PlcMonitor.Decimal

/-- The two interchange formats, by the width of their fraction and of their exponent. -/
structure Format where
  fractionBits : Nat
  exponentBits : Nat
deriving DecidableEq, Repr

def single : Format := ⟨23, 8⟩

def double : Format := ⟨52, 11⟩

namespace Format

def signBit (format : Format) : Nat := Nat.pow 2 (format.fractionBits + format.exponentBits)

def isNegative (format : Format) (bits : Nat) : Bool := format.signBit ≤ bits

def fraction (format : Format) (bits : Nat) : Nat := bits % Nat.pow 2 format.fractionBits

def biased (format : Format) (bits : Nat) : Nat :=
  bits / Nat.pow 2 format.fractionBits % Nat.pow 2 format.exponentBits

def maxBiased (format : Format) : Nat := Nat.pow 2 format.exponentBits - 1

def bias (format : Format) : Nat := Nat.pow 2 (format.exponentBits - 1) - 1

def leastExponent (format : Format) : Int :=
  1 - (format.bias : Int) - format.fractionBits

end Format

/-- The size `mantissa * 2 ^ exponent` of a finite number, and whether the gap to the number below
is half the gap to the number above. -/
structure Binary where
  mantissa : Nat
  exponent : Int
  narrowBelow : Bool
deriving DecidableEq, Repr

inductive Reading where
  | nan
  | infinite
  | finite (size : Binary)
deriving DecidableEq, Repr

def Format.read (format : Format) (bits : Nat) : Reading :=
  let fraction := format.fraction bits
  let biased := format.biased bits
  if biased = format.maxBiased then
    if fraction = 0 then .infinite else .nan
  else if biased = 0 then
    .finite ⟨fraction, format.leastExponent, false⟩
  else
    .finite ⟨Nat.pow 2 format.fractionBits + fraction,
      format.leastExponent + (biased - 1 : Nat), fraction = 0 && 1 < biased⟩

/-- The double that equals a single, in bits. A single below its normal range is normal as a
double. -/
def widen (bits : Nat) : Nat :=
  let sign := if single.isNegative bits then double.signBit else 0
  let fraction := single.fraction bits
  let biased := single.biased bits
  let shift := double.fractionBits - single.fractionBits
  if biased = single.maxBiased then
    sign + double.maxBiased * Nat.pow 2 double.fractionBits + fraction * Nat.pow 2 shift
  else if biased ≠ 0 then
    sign + (biased + (double.bias - single.bias)) * Nat.pow 2 double.fractionBits +
      fraction * Nat.pow 2 shift
  else if fraction = 0 then
    sign
  else
    let top := fraction.log2
    let exponent := top + (double.bias + 1 - single.bias - single.fractionBits)
    sign + exponent * Nat.pow 2 double.fractionBits +
      (fraction - Nat.pow 2 top) * Nat.pow 2 (double.fractionBits - top)

def Binary.whole (size : Binary) : Nat :=
  size.mantissa * Nat.pow 2 size.exponent.toNat / Nat.pow 2 (-size.exponent).toNat

end PlcMonitor.Decimal
