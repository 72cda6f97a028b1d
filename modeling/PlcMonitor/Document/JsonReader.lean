import PlcMonitor.Document.Basic
import PlcMonitor.Decimal.Reader
import PlcMonitor.Document.Scalar

/-! Documents from JSON. The order of keys is kept, and a number without point or exponent stays a
whole number if it fits sixty-four bits. -/
namespace PlcMonitor.JsonReader

def skipSpace (cs : List Char) : List Char :=
  cs.dropWhile fun c => c = ' ' || c = '\t' || c = '\n' || c = '\r'

def unit? (cs : List Char) : Option (Nat × List Char) :=
  if (cs.take 4).length = 4 then (Scalar.inBase? 16 (cs.take 4)).map fun n => (n, cs.drop 4)
  else none

/-- A character written as one unit, or as two that belong together. -/
def unicode? (cs : List Char) : Option (Char × List Char) := do
  let (high, rest) ← unit? cs
  if 0xD800 ≤ high ∧ high < 0xDC00 then
    match rest with
    | '\\' :: 'u' :: rest =>
      let (low, rest) ← unit? rest
      if 0xDC00 ≤ low ∧ low < 0xE000 then
        return (Char.ofNat (0x10000 + (high - 0xD800) * 0x400 + (low - 0xDC00)), rest)
      else none
    | _ => none
  else if 0xDC00 ≤ high ∧ high < 0xE000 then none
  else return (Char.ofNat high, rest)

def escaped? : List Char → Option (Char × List Char)
  | 'u' :: rest => unicode? rest
  | '"' :: rest => some ('"', rest)
  | '\\' :: rest => some ('\\', rest)
  | '/' :: rest => some ('/', rest)
  | 'n' :: rest => some ('\n', rest)
  | 't' :: rest => some ('\t', rest)
  | 'r' :: rest => some ('\r', rest)
  | 'b' :: rest => some ('\x08', rest)
  | 'f' :: rest => some ('\x0c', rest)
  | _ => none

def text? : Nat → List Char → List Char → Option (String × List Char)
  | 0, _, _ => none
  | fuel + 1, before, cs =>
    match cs with
    | '"' :: rest => some (String.ofList before.reverse, rest)
    | '\\' :: rest => do
      let (c, rest) ← escaped? rest
      text? fuel (c :: before) rest
    | c :: rest => text? fuel (c :: before) rest
    | [] => none

def isNumberChar (c : Char) : Bool :=
  c.isDigit || c = '-' || c = '+' || c = '.' || c = 'e' || c = 'E'

def whole? (cs : List Char) : Option Int :=
  match cs with
  | '-' :: digits => (Scalar.inBase? 10 digits).map fun n => -(n : Int)
  | digits => (Scalar.inBase? 10 digits).map fun n => (n : Int)

def number? (cs : List Char) : Option Document :=
  match whole? cs with
  | some i =>
    if Int64.minValue.toInt ≤ i ∧ i < UInt64.size then some (.int i)
    else (Decimal.signed? cs).map .float
  | none => (Decimal.signed? cs).map .float

mutual
def value? : Nat → List Char → Option (Document × List Char)
  | 0, _ => none
  | fuel + 1, cs =>
    match skipSpace cs with
    | '\x7b' :: rest => do
      let (entries, rest) ← entries? fuel [] (skipSpace rest)
      return (.map entries, rest)
    | '[' :: rest => do
      let (items, rest) ← items? fuel [] (skipSpace rest)
      return (.list items, rest)
    | '"' :: rest => do
      let (s, rest) ← text? (rest.length + 1) [] rest
      return (.text s, rest)
    | 't' :: 'r' :: 'u' :: 'e' :: rest => some (.bool true, rest)
    | 'f' :: 'a' :: 'l' :: 's' :: 'e' :: rest => some (.bool false, rest)
    | 'n' :: 'u' :: 'l' :: 'l' :: rest => some (.null, rest)
    | cs => do
      let number ← number? (cs.takeWhile isNumberChar)
      return (number, cs.dropWhile isNumberChar)
def items? : Nat → List Document → List Char → Option (List Document × List Char)
  | 0, _, _ => none
  | fuel + 1, before, cs =>
    match cs with
    | ']' :: rest => some (before.reverse, rest)
    | ',' :: rest => items? fuel before (skipSpace rest)
    | cs => do
      let (item, rest) ← value? fuel cs
      items? fuel (item :: before) (skipSpace rest)
def entries? : Nat → List (Document × Document) → List Char →
    Option (List (Document × Document) × List Char)
  | 0, _, _ => none
  | fuel + 1, before, cs =>
    match cs with
    | '\x7d' :: rest => some (before.reverse, rest)
    | ',' :: rest => entries? fuel before (skipSpace rest)
    | '"' :: rest => do
      let (key, rest) ← text? (rest.length + 1) [] rest
      match skipSpace rest with
      | ':' :: rest =>
        let (item, rest) ← value? fuel rest
        entries? fuel ((.text key, item) :: before) (skipSpace rest)
      | _ => none
    | _ => none
end

end PlcMonitor.JsonReader

def PlcMonitor.Document.ofJson? (text : String) : Option Document :=
  match JsonReader.value? (2 * text.toList.length + 2) text.toList with
  | some (document, rest) => if JsonReader.skipSpace rest = [] then some document else none
  | none => none
