import PlcMonitor.Reading.Value
import PlcMonitor.Tag.Spec

/-! Decoding a tag's words. -/
namespace PlcMonitor

def singleBits (high low : UInt16) : Nat := high.toNat * UInt16.size + low.toNat

def singleIsFinite (bits : Nat) : Bool :=
  Decimal.single.biased bits ≠ Decimal.single.maxBiased

def floatOfSingle (bits : Nat) : Float := Float.ofBits (Decimal.widen bits).toUInt64

def testBit (word : UInt16) (bit : Fin 16) : Bool := word.toNat.testBit bit.val

namespace TagSpec

/-- One register as a number. Scaling that is undefined, or has no span, leaves it unscaled. -/
def decodeInteger (spec : TagSpec) (word : UInt16) : Value :=
  match spec.scaling.bind (·.apply word.toFloat) with
  | some scaled => .float scaled
  | none => .int word.toNat

def decodeReal (spec : TagSpec) (high low : UInt16) : Option Value :=
  let bits := singleBits high low
  if singleIsFinite bits then
    let x := floatOfSingle bits
    some (.float ((spec.scaling.bind (·.apply x)).getD x))
  else
    none

/-- The states of the labelled bits. Where two bits share a label, the higher bit wins. -/
def decodeDigital (spec : TagSpec) (word : UInt16) : Value :=
  .bits (Table.ofList (spec.bits.entries.map fun (bit, label) => (label, testBit word bit)))

def decodeValue (spec : TagSpec) (words : List UInt16) : Option Value :=
  match spec.type, words with
  | .integer, word :: _ => some (spec.decodeInteger word)
  | .real, high :: low :: _ => spec.decodeReal high low
  | .digital, word :: _ => some (spec.decodeDigital word)
  | _, _ => none

/-- Nothing when words are missing. Words beyond the tag's own do not matter. -/
def decode (spec : TagSpec) (words : List UInt16) : Option Reading :=
  if words.length < spec.span.count.toNat then none
  else (spec.decodeValue words).map fun value => ⟨value, words.take spec.span.count.toNat⟩

end TagSpec
end PlcMonitor
