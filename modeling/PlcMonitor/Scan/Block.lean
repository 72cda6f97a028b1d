import PlcMonitor.Scan.Settings
import PlcMonitor.Sorting
import PlcMonitor.Tag.Spec

/-! Block reads that cover the registers of tags: the spans of the tags are taken in ascending
order, and each joins the block before it if the gap and the size allow. -/
namespace PlcMonitor

structure Window where
  first : Nat
  last : Nat
deriving DecidableEq, Repr

namespace Window

def ofSpan (span : Span) : Window := ⟨span.first.toNat, span.last⟩

def toSpan (window : Window) : Span :=
  ⟨window.first.toUInt16, (window.last - window.first + 1).toUInt16⟩

def le (a b : Window) : Bool :=
  a.first < b.first || (a.first = b.first && a.last ≤ b.last)

def sort (windows : List Window) : List Window := Sorting.sort le windows

def joins (maxSize maxGap : Nat) (current next : Window) : Bool :=
  next.first ≤ current.last + 1 + maxGap && max current.last next.last - current.first + 1 ≤ maxSize

def sweep (maxSize maxGap : Nat) : Window → List Window → List Window
  | current, [] => [current]
  | current, next :: rest =>
    if joins maxSize maxGap current next then
      sweep maxSize maxGap ⟨current.first, max current.last next.last⟩ rest
    else
      current :: sweep maxSize maxGap next rest

end Window

/-- A block of fewer registers than a real has cannot hold one. -/
structure BlockSizeFault where
  got : UInt16
deriving DecidableEq, Repr

def BlockSizeFault.message (fault : BlockSizeFault) : String :=
  s!"max_block_size must be at least {minBlockSize.toNat}, got {fault.got.toNat}"

def blocksOfWindows (maxSize maxGap : Nat) (windows : List Window) : List Span :=
  match Window.sort windows with
  | [] => []
  | first :: rest => (Window.sweep maxSize maxGap first rest).map Window.toSpan

def coveringBlocks (tags : List TagSpec) (maxSize maxGap : UInt16) :
    Except BlockSizeFault (List Span) :=
  if maxSize < minBlockSize then .error ⟨maxSize⟩
  else .ok (blocksOfWindows maxSize.toNat maxGap.toNat (tags.map fun tag => .ofSpan tag.span))

end PlcMonitor
