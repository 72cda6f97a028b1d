import PlcMonitor.Text.Blank

/-! Keys of bit labels, such as `BIT 9`, `bit3` or `15`. -/
namespace PlcMonitor

/-- A text cut after `count` bytes of its UTF-8 form; nothing if a character straddles the cut. -/
def cutBytes : Nat → List Char → Option (List Char × List Char)
  | 0, cs => some ([], cs)
  | _ + 1, [] => none
  | count + 1, c :: cs =>
    if c.utf8Size ≤ count + 1 then
      (cutBytes (count + 1 - c.utf8Size) cs).map fun (head, tail) => (c :: head, tail)
    else
      none

def digitsValue (cs : List Char) : Option Nat :=
  if cs ≠ [] ∧ cs.all Char.isDigit then
    some (cs.foldl (fun value c => 10 * value + (c.toNat - '0'.toNat)) 0)
  else
    none

def countValue : List Char → Option Nat
  | '+' :: cs => digitsValue cs
  | cs => digitsValue cs

def maxBit : Nat := 15

inductive BitKey where
  | bit (index : Fin 16)
  | invalid
  /-- Its fourth byte lies inside a character, where it cannot be cut to look for `bit`. -/
  | uncut
deriving DecidableEq, Repr

namespace BitKey

def ofCount? (count : Option Nat) : BitKey :=
  match count with
  | some n => if h : n < 16 then .bit ⟨n, h⟩ else .invalid
  | none => .invalid

/-- An optional `bit` in any letter case, blanks, and the number of a bit. -/
def parseTrimmed (cs : List Char) : BitKey :=
  if 3 ≤ Text.byteLength cs then
    match cutBytes 3 cs with
    | none => .uncut
    | some (head, tail) =>
      if head.map Char.toLower = ['b', 'i', 't'] then
        ofCount? (countValue (Text.trimmed tail))
      else
        ofCount? (countValue cs)
  else
    ofCount? (countValue cs)

def parse (raw : String) : BitKey := parseTrimmed (Text.trimmed raw.toList)

end BitKey
end PlcMonitor
