import PlcMonitor.Document.Record
import PlcMonitor.Register.DataType
import PlcMonitor.Table

/-! Tags as configuration defines them. -/
namespace PlcMonitor

structure TagDefinition where
  address : UInt32
  type : DataType
  description : Option String := none
  unit : Option String := none
  rawZero : Option Float := none
  rawFull : Option Float := none
  engZero : Option Float := none
  engFull : Option Float := none
  bits : Option (Table String String) := none

namespace TagDefinition

abbrev Unreadable := Fault DataType.Unsupported

abbrev Decoder := Document → Except Unreadable TagDefinition

def readType : Reader DataType.Unsupported DataType := fun node => do
  match DataType.ofName (← Reader.text node) with
  | .ok type => return type
  | .error unsupported => throw (.refused unsupported)

def readLabels {ε : Type} : Reader ε (Table String String) := fun node =>
  return Table.ofList (← Reader.pairs Reader.text Reader.text node)

def addressField : Field DataType.Unsupported UInt32 := ⟨"address", Reader.uint32, none⟩

def typeField : Field DataType.Unsupported DataType := ⟨"type", readType, none⟩

def textField (name : String) : Field DataType.Unsupported (Option String) :=
  ⟨name, Reader.optional Reader.text, some none⟩

def scaleField (name : String) : Field DataType.Unsupported (Option Float) :=
  ⟨name, Reader.optional Reader.float, some none⟩

def bitsField : Field DataType.Unsupported (Option (Table String String)) :=
  ⟨"bits", Reader.optional readLabels, some none⟩

def probes : List (Probe DataType.Unsupported) :=
  [addressField.probe, typeField.probe, (textField "description").probe, (textField "unit").probe,
   (scaleField "raw_zero_scale").probe, (scaleField "raw_full_scale").probe,
   (scaleField "eng_zero_scale").probe, (scaleField "eng_full_scale").probe, bitsField.probe]

def ofNode : Reader DataType.Unsupported TagDefinition := fun node => do
  let record ← Record.ofNode probes node
  return {
    address := ← record.get addressField
    type := ← record.get typeField
    description := ← record.get (textField "description")
    unit := ← record.get (textField "unit")
    rawZero := ← record.get (scaleField "raw_zero_scale")
    rawFull := ← record.get (scaleField "raw_full_scale")
    engZero := ← record.get (scaleField "eng_zero_scale")
    engFull := ← record.get (scaleField "eng_full_scale")
    bits := ← record.get bitsField }

end TagDefinition
end PlcMonitor
