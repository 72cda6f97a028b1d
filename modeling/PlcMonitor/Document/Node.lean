import PlcMonitor.Document.Scalar

/-! Nodes: documents in which scalars still have their spelling, so that a reader may take `12` for
a number or for a name, and in which a node may stand for another by its name. -/
namespace PlcMonitor

inductive ScalarStyle where
  | plain
  | quoted
  | literal
  | folded
deriving DecidableEq, Repr

inductive Node where
  | scalar (text : String) (style : ScalarStyle) (tag : Option String)
  | value (document : Document)
  | list (tag : Option String) (items : List Node)
  | map (tag : Option String) (entries : List (Node × Node))
  | alias (name : Nat)
  /-- The text breaks off here. -/
  | broken

namespace Node

def plain (text : String) : Node := .scalar text .plain none

mutual
def isWhole : Node → Bool
  | .broken => false
  | .list _ items => areWhole items
  | .map _ entries => entriesWhole entries
  | .scalar .. | .value _ | .alias _ => true
def areWhole : List Node → Bool
  | [] => true
  | item :: rest => isWhole item && areWhole rest
def entriesWhole : List (Node × Node) → Bool
  | [] => true
  | (key, item) :: rest => isWhole key && isWhole item && entriesWhole rest
end

/-- The members of a list; nothing written counts as an empty one. -/
def items? : Node → Option (List Node)
  | .list _ items => some items
  | .value document =>
    match document.untagged with
    | .list items => some (items.map .value)
    | .null => some []
    | _ => none
  | .scalar "" .plain _ => some []
  | _ => none

def entries? : Node → Option (List (Node × Node))
  | .map _ entries => some entries
  | .value document =>
    match document.untagged with
    | .map entries => some (entries.map fun (key, item) => (.value key, .value item))
    | .null => some []
    | _ => none
  | .scalar "" .plain _ => some []
  | _ => none

def text? : Node → Option String
  | .scalar text _ _ => some text
  | .value document =>
    match document.untagged with
    | .text s => some s
    | _ => none
  | _ => none

def coreTag (kind : String) : String := "tag:yaml.org,2002:" ++ kind

/-- The spelling of a scalar that may be of a core kind: without quotes, or a literal block that is
tagged with that kind. -/
def spelling? (kind : String) : Node → Option String
  | .scalar text .plain _ => some text
  | .scalar text .literal tag => if tag = some (coreTag kind) then some text else none
  | _ => none

def bool? : Node → Option Bool
  | .value document =>
    match document.untagged with
    | .bool b => some b
    | _ => none
  | node => (node.spelling? "bool").bind Scalar.bool?

def natural? : Node → Option Nat
  | .value document =>
    match document.untagged with
    | .int i => if 0 ≤ i then some i.toNat else none
    | _ => none
  | node => ((node.spelling? "int").bind Scalar.natural?).filter (· < UInt64.size)

def floatOfInt (i : Int) : Float :=
  if i < 0 then -(i.natAbs.toUInt64.toFloat) else i.toNat.toUInt64.toFloat

def float? : Node → Option Float
  | .value document =>
    match document.untagged with
    | .int i => some (floatOfInt i)
    | .float x => some x
    | _ => none
  | node => (node.spelling? "float").bind Scalar.float?

/-- Whether nothing stands here for an optional value; undecided for a text that was tagged as
nothing. -/
def isAbsent? : Node → Option Bool
  | .scalar text .plain tag =>
    if tag = some (coreTag "null") then
      if Scalar.isNullWord text then some true else none
    else some (tag.isNone && Scalar.isNull text)
  | .value .null => some true
  | _ => some false

def withoutMark (name : String) : String :=
  match name.toList with
  | '!' :: c :: rest => String.ofList (c :: rest)
  | _ => name

def ownTag? (tag : Option String) : Option String :=
  match tag with
  | some name => if name.startsWith "!" then some (withoutMark name) else none
  | none => none

/-- What a scalar stands for by its spelling. Nothing if a number is too wide. -/
def untyped (text : String) (style : ScalarStyle) : Option Document :=
  if style = .plain then Scalar.resolve text else some (.text text)

/-- What a scalar stands for by a tag of the core schema, which counts more than quotes. -/
def typed (tag text : String) : Option Document :=
  if tag = coreTag "bool" then (Scalar.bool? text).map .bool
  else if tag = coreTag "int" then
    match Scalar.whole? text with
    | some (some i) => some (.int i)
    | _ => none
  else if tag = coreTag "float" then (Scalar.float? text).map .float
  else if tag = coreTag "null" then if Scalar.isNullWord text then some .null else none
  else some (.text text)

def tagged (tag : Option String) (document : Document) : Document :=
  match ownTag? tag with
  | some name => .tagged (withoutMark name) document
  | none => document

def resolveScalar (text : String) (style : ScalarStyle) (tag : Option String) : Option Document :=
  match tag, ownTag? tag with
  | some tag, none => typed tag text
  | tag, _ => (untyped text style).map (tagged tag)

end Node
end PlcMonitor
