import PlcMonitor.Alarm.Occurrence
import PlcMonitor.Proofs.Text.Trim

/-! The names that occurrences are filed under are trimmed and not empty. -/
namespace PlcMonitor

namespace Sha256

theorem hexDigit_not_blank {n : Nat} (h : n < 16) : Text.isBlank (hexDigit n) = false := by
  decide +revert

theorem hexWord_not_blank {w : UInt32} {c : Char} (h : c ∈ hexWord w) :
    Text.isBlank c = false := by
  obtain ⟨i, -, rfl⟩ := List.mem_map.mp h
  exact hexDigit_not_blank (Nat.mod_lt _ (by decide))

theorem length_hexWord (w : UInt32) : (hexWord w).length = 8 := by
  simp [hexWord]

theorem trim_hex (bytes : List UInt8) : Text.trim (hex bytes) = hex bytes := by
  refine Text.trim_of_no_blank fun c hc => ?_
  rw [hex, String.toList_ofList] at hc
  obtain ⟨w, -, hc⟩ := List.mem_flatMap.mp hc
  exact hexWord_not_blank hc

theorem hex_ne_empty (bytes : List UInt8) : hex bytes ≠ "" := by
  intro h
  have length := congrArg (fun s : String => s.toList.length) h
  simp [hex, Chain.words, length_hexWord] at length

end Sha256

namespace Observation

/-- A name that trimming leaves as it is and that is not empty. -/
def Proper (name : String) : Prop := Text.trim name = name ∧ name ≠ ""

theorem proper_trim {name : String} (h : Text.trim name ≠ "") : Proper (Text.trim name) :=
  ⟨Text.trim_trim name, h⟩

theorem proper_sourceName (raw : String) : Proper (sourceName raw) := by
  unfold sourceName
  dsimp only
  split
  · exact ⟨by decide, by decide⟩
  · exact proper_trim ‹_›

theorem proper_digestKey (source raw : String) : Proper (digestKey source raw) := by
  unfold digestKey
  exact ⟨Sha256.trim_hex _, Sha256.hex_ne_empty _⟩

theorem proper_source (seen : Observation) : Proper seen.normalized.source := by
  unfold normalized
  dsimp only
  exact proper_sourceName seen.source

theorem proper_key (seen : Observation) : Proper seen.normalized.key := by
  unfold normalized
  dsimp only
  split
  · exact proper_digestKey _ _
  · exact proper_trim ‹_›

theorem normalized_source (seen : Observation) :
    seen.normalized.source = sourceName seen.source := by
  unfold normalized
  dsimp only

theorem normalized_key {seen : Observation} (named : Text.trim seen.key ≠ "") :
    seen.normalized.key = Text.trim seen.key := by
  unfold normalized
  dsimp only
  rw [if_neg named]

end Observation
end PlcMonitor
