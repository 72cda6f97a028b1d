import PlcMonitor.Document.Basic

/-! Documents as indented JSON. Numbers that are not finite have no form there and become null. -/
namespace PlcMonitor.Document

def jsonEscape (c : Char) : List Char :=
  match c with
  | '"' => ['\\', '"']
  | '\\' => ['\\', '\\']
  | '\n' => ['\\', 'n']
  | '\r' => ['\\', 'r']
  | '\t' => ['\\', 't']
  | '\x08' => ['\\', 'b']
  | '\x0c' => ['\\', 'f']
  | c =>
    if c.toNat < 0x20 then
      let digits := Nat.toDigits 16 c.toNat
      ['\\', 'u'] ++ List.replicate (4 - digits.length) '0' ++ digits
    else [c]

def jsonText (s : String) : String :=
  String.ofList (['"'] ++ s.toList.flatMap jsonEscape ++ ['"'])

def jsonScalar : Document → String
  | .null | .list _ | .map _ | .tagged .. => "null"
  | .bool b => s!"{b}"
  | .int i => s!"{i}"
  | .float x => if x.isFinite then floatText x else "null"
  | .text s => jsonText s

def jsonKey : Document → String
  | .text s => jsonText s
  | other => jsonText (jsonScalar other)

def indent (depth : Nat) : String := "\n" ++ String.ofList (List.replicate (2 * depth) ' ')

mutual
/-- Two spaces deeper at each level; empty lists and maps stay on one line. A value with a type is
a map of one entry. -/
def json (depth : Nat) : Document → String
  | .list [] => "[]"
  | .list items =>
    "[" ++ ",".intercalate (jsonItems (depth + 1) items) ++ indent depth ++ "]"
  | .map [] => "\x7b\x7d"
  | .map entries =>
    "\x7b" ++ ",".intercalate (jsonEntries (depth + 1) entries) ++ indent depth ++ "\x7d"
  | .null => "null"
  | .bool b => jsonScalar (.bool b)
  | .int i => jsonScalar (.int i)
  | .float x => jsonScalar (.float x)
  | .text s => jsonScalar (.text s)
  | .tagged name value =>
    "\x7b" ++ indent (depth + 1) ++ jsonText ("!" ++ name) ++ ": " ++ json (depth + 1) value ++
      indent depth ++ "\x7d"
def jsonItems (depth : Nat) : List Document → List String
  | [] => []
  | item :: rest => (indent depth ++ json depth item) :: jsonItems depth rest
def jsonEntries (depth : Nat) : List (Document × Document) → List String
  | [] => []
  | (key, value) :: rest =>
    (indent depth ++ jsonKey key ++ ": " ++ json depth value) :: jsonEntries depth rest
end

end PlcMonitor.Document
