import PlcMonitor.Register.Address
import PlcMonitor.Reading.Scaling
import PlcMonitor.Tag.BitKey
import PlcMonitor.Tag.Tree

/-! Tags with the registers they are read from, and the tags of a tree in the order it is
written. -/
namespace PlcMonitor

structure TagSpec where
  path : List String
  address : UInt32
  type : DataType
  /-- The register of the tag's own number. -/
  base : UInt16
  span : Span
  description : Option String := none
  unit : Option String := none
  scaling : Option Scaling := none
  bits : Table (Fin 16) String := Table.empty

inductive TagFault where
  | rootIsTag
  | address (key : String) (fault : AddressFault)
  | bitKey (key raw : String)
  /-- A bit key cannot be cut where its prefix would end; the run stops here. -/
  | uncutBitKey (key raw : String)

def TagFault.message : TagFault → String
  | .rootIsTag => "tag tree root must be a group, not a single tag"
  | .address key fault => s!"tag '{key}': {fault.message}"
  | .bitKey key raw => s!"tag '{key}': invalid bit key '{raw}'"
  | .uncutBitKey key raw => s!"tag '{key}': bit key '{raw}' has a character across its third byte"

def TagFault.isFatal : TagFault → Bool
  | .uncutBitKey .. => true
  | _ => false

namespace TagSpec

def key (spec : TagSpec) : String := joinPath spec.path

/-- Labels by bit. Where two keys name one bit, the later in the order of keys wins. -/
def bitLabels (key : String) :
    List (String × String) → Table (Fin 16) String → Except TagFault (Table (Fin 16) String)
  | [], labels => .ok labels
  | (raw, label) :: rest, labels =>
    match BitKey.parse raw with
    | .bit index => bitLabels key rest (labels.insert index label)
    | .invalid => .error (.bitKey key raw)
    | .uncut => .error (.uncutBitKey key raw)

def ofDefinition (path : List String) (definition : TagDefinition) : Except TagFault TagSpec := do
  let key := joinPath path
  let span ← (readSpan definition.address definition.type).mapError (.address key)
  let base ← (registerNumber definition.address).mapError (.address key)
  let labels := (definition.bits.map (·.entries)).getD []
  let bits ← bitLabels key labels Table.empty
  return {
    path
    address := definition.address
    type := definition.type
    base
    span
    description := definition.description
    unit := definition.unit
    scaling := Scaling.ofParts definition.rawZero definition.rawFull definition.engZero
      definition.engFull
    bits }

def toDocument (spec : TagSpec) : Document :=
  .record <|
    [("path", .list (spec.path.map .text)),
     ("address_4x", .int spec.address.toNat),
     ("data_type", .text spec.type.name),
     ("base_address", .int spec.base.toNat),
     ("read_address", .int spec.span.first.toNat),
     ("read_count", .int spec.span.count.toNat)] ++
    (spec.description.map fun s => ("description", .text s)).toList ++
    (spec.unit.map fun s => ("unit", .text s)).toList ++
    (spec.scaling.map fun scaling => ("scaling", scaling.toDocument)).toList ++
    (if spec.bits.entries.isEmpty then []
     else [("bits", .record (spec.bits.entries.map fun (bit, label) =>
       (toString bit.val, .text label)))])

end TagSpec

namespace TagTree

mutual
def flattenAt (path : List String) : TagTree → Except TagFault (List TagSpec)
  | .tag definition => (TagSpec.ofDefinition path definition).map fun spec => [spec]
  | .group children => flattenChildren path children
def flattenChildren (path : List String) :
    List (String × TagTree) → Except TagFault (List TagSpec)
  | [] => .ok []
  | (name, child) :: rest => do
    let first ← flattenAt (path ++ [name]) child
    let others ← flattenChildren path rest
    return first ++ others
end

def flatten : TagTree → Except TagFault (List TagSpec)
  | .tag _ => .error .rootIsTag
  | .group children => flattenChildren [] children

end TagTree
end PlcMonitor
