import PlcMonitor.Yaml.Scalar

/-! Tags, and the directives that stand before a document: the version it is written in and the
handles that its tags begin with. -/
namespace PlcMonitor.Yaml

def isNameChar (c : Char) : Bool := c.isAlphanum || c = '_' || c = '-'

/-- Characters of a tag. Where nothing else can follow it commas and brackets belong to it too. -/
def isTagChar (wide : Bool) (c : Char) : Bool :=
  isNameChar c || [';', '/', '?', ':', '@', '&', '=', '+', '$', '.', '%', '!', '~', '*', '\'', '(',
    ')'].contains c || (wide && [',', '[', ']'].contains c)

def octet? : List Char → Option (Nat × List Char)
  | '%' :: a :: b :: rest => (hexValue? [a, b]).map fun value => (value, rest)
  | _ => none

def octetsBehind? : Nat → Nat → List Char → Option (Nat × List Char)
  | 0, value, cs => some (value, cs)
  | count + 1, value, cs =>
    match octet? cs with
    | some (octet, rest) =>
      if octet / 64 = 2 then octetsBehind? count (64 * value + octet % 64) rest else none
    | none => none

def escapedChar? (cs : List Char) : Option (Char × List Char) := do
  let (first, rest) ← octet? cs
  let (value, rest) ←
    if first < 0x80 then some (first, rest)
    else if first / 32 = 6 then octetsBehind? 1 (first % 32) rest
    else if first / 16 = 14 then octetsBehind? 2 (first % 16) rest
    else if first / 8 = 30 then octetsBehind? 3 (first % 8) rest
    else none
  return (if value.isValidChar then Char.ofNat value else '\ufffd', rest)

def tagChars? (wide : Bool) : Nat → List Char → Option (List Char × List Char)
  | 0, cs => some ([], cs)
  | fuel + 1, cs =>
    match cs with
    | [] => some ([], [])
    | c :: rest =>
      if !isTagChar wide c then some ([], cs)
      else do
        let (c, rest) ← if c = '%' then escapedChar? cs else some (c, rest)
        let (more, rest) ← tagChars? wide fuel rest
        return (c :: more, rest)

def tagText? (wide : Bool) (cs : List Char) : Option (List Char × List Char) :=
  match tagChars? wide cs.length cs with
  | some ([], _) => none
  | text? => text?

def handle (cs : List Char) : List Char × List Char :=
  let name := cs.takeWhile isNameChar
  match cs.drop name.length with
  | '!' :: rest => ('!' :: name ++ ['!'], rest)
  | rest => ('!' :: name, rest)

def isHandle (name : List Char) : Bool := 1 < name.length && name.getLast? = some '!'

/-- A tag as it is written. The handle is empty for a tag that is written in full. -/
structure WrittenTag where
  handle : List Char
  suffix : List Char
deriving DecidableEq, Repr

def writtenTag? (cs : List Char) : Option (WrittenTag × List Char) :=
  match cs with
  | '<' :: rest => do
    let (suffix, rest) ← tagText? true rest
    match rest with
    | '>' :: rest => return (⟨[], suffix⟩, rest)
    | _ => none
  | _ =>
    let (name, rest) := handle cs
    if isHandle name then do
      let (suffix, rest) ← tagText? false rest
      return (⟨name, suffix⟩, rest)
    else do
      let (more, rest) ← tagChars? false rest.length rest
      match name.drop 1 ++ more with
      | [] => return (⟨[], ['!']⟩, rest)
      | suffix => return (⟨['!'], suffix⟩, rest)

abbrev Handles := List (List Char × List Char)

namespace Handles

/-- Handles that need not be declared, unless they stand for something else. -/
def standard : Handles := [(['!'], ['!']), (['!', '!'], "tag:yaml.org,2002:".toList)]

def resolve? (handles : Handles) (tag : WrittenTag) : Option (List Char) :=
  if tag.handle = [] then some tag.suffix
  else (handles.lookup tag.handle).map (· ++ tag.suffix)

end Handles

inductive Directive where
  | version (major minor : Nat)
  | handle (name stem : List Char)
deriving DecidableEq, Repr

namespace Directive

def number? (cs : List Char) : Option (Nat × List Char) :=
  let digits := cs.takeWhile Char.isDigit
  if digits = [] || 9 < digits.length then none
  else
    some (digits.foldl (fun value c => 10 * value + (c.toNat - '0'.toNat)) 0,
      cs.drop digits.length)

def version? (cs : List Char) : Option (Directive × List Char) := do
  let (major, rest) ← number? (cs.dropWhile isGap)
  match rest with
  | '.' :: rest =>
    let (minor, rest) ← number? rest
    return (.version major minor, rest)
  | _ => none

def handle? (cs : List Char) : Option (Directive × List Char) := do
  match cs.dropWhile isGap with
  | '!' :: rest =>
    let (name, rest) := Yaml.handle rest
    if !(isHandle name || name = ['!']) || !rest.head?.any isGap then none
    let (stem, rest) ← tagText? true (rest.dropWhile isGap)
    if wordEnds rest then return (.handle name stem, rest) else none
  | _ => none

def read? (cs : List Char) : Option (Directive × List Char) := do
  let name := cs.takeWhile isNameChar
  let rest := cs.drop name.length
  if !wordEnds rest then none
  let (directive, rest) ←
    if name = "YAML".toList then version? rest
    else if name = "TAG".toList then handle? rest
    else none
  let rest := rest.dropWhile isGap
  let rest := if rest.head? = some '#' then rest.dropWhile fun c => !isBreak c else rest
  if rest.head?.all isBreak then return (directive, rest) else none

end Directive
end PlcMonitor.Yaml
