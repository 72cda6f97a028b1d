import PlcMonitor.Reading.Decode
import PlcMonitor.Scan.Block

/-! Scan plans: the tags of a device and the block reads that cover them. -/
namespace PlcMonitor

structure ScanPlan where
  tags : List TagSpec
  blocks : List Span

inductive PlanFault where
  | tag (fault : TagFault)
  | blockSize (fault : BlockSizeFault)

def PlanFault.message : PlanFault → String
  | .tag fault => fault.message
  | .blockSize fault => fault.message

def PlanFault.isFatal : PlanFault → Bool
  | .tag fault => fault.isFatal
  | .blockSize _ => false

def Span.toDocument (span : Span) : Document :=
  .record [("address", .int span.first.toNat), ("count", .int span.count.toNat)]

namespace ScanPlan

def ofTags (tags : List TagSpec) (maxSize maxGap : UInt16) : Except BlockSizeFault ScanPlan := do
  return ⟨tags, ← coveringBlocks tags maxSize maxGap⟩

def build (tree : TagTree) (settings : ScanSettings) : Except PlanFault ScanPlan := do
  let tags ← tree.flatten.mapError .tag
  (ofTags tags settings.maxBlockSize settings.maxGap).mapError .blockSize

def find? (plan : ScanPlan) (key : String) : Option TagSpec :=
  plan.tags.find? fun tag => tag.key = key

/-- One tag's reading from the words of a block: nothing if the tag is not wholly inside the block
or its words were not all delivered. -/
def decodeTag (block : Span) (words : List UInt16) (tag : TagSpec) : Option Reading :=
  let offset := tag.span.first.toNat - block.first.toNat
  let count := tag.span.count.toNat
  if block.contains tag.span && offset + count ≤ words.length then
    tag.decode ((words.drop offset).take count)
  else
    none

def decode (plan : ScanPlan) (block : Span) (words : List UInt16) : List (TagSpec × Reading) :=
  plan.tags.filterMap fun tag => (decodeTag block words tag).map fun reading => (tag, reading)

def toDocument (plan : ScanPlan) : Document :=
  .record [("tags", .list (plan.tags.map (·.toDocument))),
    ("blocks", .list (plan.blocks.map (·.toDocument)))]

end ScanPlan
end PlcMonitor
