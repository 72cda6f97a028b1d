import PlcMonitor.Decimal.Layout
import PlcMonitor.Text.Quoted

/-! Documents: the values that configuration is written in and records are written to. -/
namespace PlcMonitor

inductive Document where
  | null
  | bool (value : Bool)
  | int (value : Int)
  | float (value : Float)
  | text (value : String)
  | list (items : List Document)
  | map (entries : List (Document × Document))
  /-- A value that its author gave a type of his own. -/
  | tagged (name : String) (value : Document)

namespace Document

def floatText (x : Float) : String :=
  Decimal.inDocuments.write Decimal.double x.toBits.toNat

mutual
/-- Equality of keys. A whole number and a float are never equal, a NaN equals a NaN, and maps are
equal whatever the order of their entries. -/
def same : Document → Document → Bool
  | .null, .null => true
  | .bool a, .bool b => a = b
  | .int a, .int b => a = b
  | .float a, .float b => a == b || (a.isNaN && b.isNaN)
  | .text a, .text b => a = b
  | .list as, .list bs => sameItems as bs
  | .map as, .map bs => as.length = bs.length && holdsEntries as bs
  | .tagged a x, .tagged b y => a = b && same x y
  | _, _ => false
def sameItems : List Document → List Document → Bool
  | [], [] => true
  | a :: as, b :: bs => same a b && sameItems as bs
  | _, _ => false
def holdsEntries : List (Document × Document) → List (Document × Document) → Bool
  | [], _ => true
  | (k, v) :: as, bs => bs.any (fun (l, w) => same k l && same v w) && holdsEntries as bs
end

def untagged : Document → Document
  | .tagged _ value => untagged value
  | document => document

def isMap : Document → Bool
  | .map _ => true
  | _ => false

def lookup (key : String) : List (Document × Document) → Option Document
  | [] => none
  | (.text k, value) :: rest => if k = key then some value else lookup key rest
  | _ :: rest => lookup key rest

mutual
/-- A document with the kind of every value shown. A text or a number that is a key is shown
bare. -/
def shown : Document → String
  | .null => "Null"
  | .bool b => s!"Bool({b})"
  | .int i => s!"Number({i})"
  | .float x => s!"Number({floatText x})"
  | .text s => s!"String({Text.quoted s})"
  | .list items => "Sequence [" ++ ", ".intercalate (shownItems items) ++ "]"
  | .map entries => "Mapping \x7b" ++ ", ".intercalate (shownEntries entries) ++ "\x7d"
  | .tagged name value => "TaggedValue \x7b tag: !" ++ name ++ ", value: " ++ shown value ++ " \x7d"
def shownItems : List Document → List String
  | [] => []
  | item :: rest => shown item :: shownItems rest
def shownEntries : List (Document × Document) → List String
  | [] => []
  | (key, value) :: rest => (shownKey key ++ ": " ++ shown value) :: shownEntries rest
def shownKey : Document → String
  | .bool b => s!"{b}"
  | .int i => s!"{i}"
  | .float x => floatText x
  | .text s => Text.quoted s
  | .null => "Null"
  | .list items => "Sequence [" ++ ", ".intercalate (shownItems items) ++ "]"
  | .map entries => "Mapping \x7b" ++ ", ".intercalate (shownEntries entries) ++ "\x7d"
  | .tagged name value => "TaggedValue \x7b tag: !" ++ name ++ ", value: " ++ shown value ++ " \x7d"
end

def record (fields : List (String × Document)) : Document :=
  .map (fields.map fun (name, value) => (.text name, value))

def optional {α : Type} (write : α → Document) : Option α → Document
  | some a => write a
  | none => .null

end Document
end PlcMonitor
