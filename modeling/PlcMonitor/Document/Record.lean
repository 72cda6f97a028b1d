import PlcMonitor.Document.Reader

/-! Records read from nodes. The first fault counts: fields in the order they are written, then
missing fields in the order they are declared. Unknown fields are passed over. -/
namespace PlcMonitor

/-- A named part of a record; one without a default must be written. -/
structure Field (ε α : Type) where
  name : String
  read : Reader ε α
  default? : Option α := none

structure Probe (ε : Type) where
  name : String
  check : Reader ε Unit

def Field.probe {ε α : Type} (field : Field ε α) : Probe ε :=
  ⟨field.name, fun node => do let _ ← field.read node⟩

structure Record where
  fields : List (String × Node)

namespace Record
variable {ε α : Type}

def checkEntries (probes : List (Probe ε)) :
    List (String × Node) → List (Node × Node) → Read ε (List (String × Node))
  | seen, [] => return seen.reverse
  | seen, (key, item) :: rest => do
    let name ← Reader.text key
    match probes.find? (·.name = name) with
    | none => if item.isWhole then checkEntries probes seen rest else throw .mismatch
    | some probe =>
      if seen.any (·.1 = name) then throw (.duplicate name)
      probe.check item
      checkEntries probes ((name, item) :: seen) rest

def ofNode (probes : List (Probe ε)) : Reader ε Record := fun node => do
  let entries ← Read.ofOption? (← Read.follow node).entries?
  return ⟨← Read.enter (checkEntries probes [] entries)⟩

def get (record : Record) (field : Field ε α) : Read ε α :=
  match record.fields.find? (·.1 = field.name) with
  | some (_, node) => (field.read node).again
  | none =>
    match field.default? with
    | some value => return value
    | none => throw (.missing field.name)

end Record
end PlcMonitor
