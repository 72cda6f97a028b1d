import PlcMonitor.Proofs.Poll.Polled
import PlcMonitor.Proofs.Poll.Served
import PlcMonitor.Proofs.Scan.Plan
import PlcMonitor.Proofs.Signal.Isolation
import PlcMonitor.Proofs.Tag.Key

/-! What the key of a tag stands for. Of the tags that share a key the plan finds the first, while
the bus and the numbers that rules look at have what was read last. An accepted device may have such
tags, unless no name in its tree has a slash and no two children of a group are named alike. -/
namespace PlcMonitor

namespace Cycle

def tagNumbers (readings : List (TagSpec × Reading)) : List (TagSpec × Float) :=
  readings.filterMap fun (tag, reading) => reading.value.asFloat.map fun x => (tag, x)

theorem numeric_eq (readings : List (TagSpec × Reading)) :
    numeric readings = (tagNumbers readings).map fun (tag, x) => (tag.key, x) := by
  simp only [numeric, tagNumbers, List.map_filterMap, Option.map_map]
  rfl

theorem fst_mem_tags_of_decodeAll {plan : ScanPlan} {reads : List BlockRead}
    {entry : TagSpec × Reading} (h : entry ∈ decodeAll plan reads) : entry.1 ∈ plan.tags := by
  obtain ⟨read, -, h⟩ := List.mem_flatMap.mp h
  cases outcome : read.outcome with
  | error fault => simp [outcome] at h
  | ok words =>
    rw [outcome] at h
    obtain ⟨tag, htag, h⟩ := List.mem_filterMap.mp h
    obtain ⟨reading, -, rfl⟩ := Option.map_eq_some_iff.mp h
    exact htag

theorem fst_mem_of_tagNumbers {readings : List (TagSpec × Reading)} {entry : TagSpec × Float}
    (h : entry ∈ tagNumbers readings) : ∃ reading, (entry.1, reading) ∈ readings := by
  obtain ⟨⟨tag, reading⟩, hreading, h⟩ := List.mem_filterMap.mp h
  obtain ⟨x, -, rfl⟩ := Option.map_eq_some_iff.mp h
  exact ⟨reading, hreading⟩

end Cycle

open PlcMonitor.Cycle

namespace ScanPlan

/-- Wherever the key of the tag is looked up, what is found is of this tag. -/
structure Identifies (plan : ScanPlan) (tag : TagSpec) : Prop where
  found : plan.find? tag.key = some tag
  /-- The number that rules look at is the last one read of the tag. -/
  number : ∀ reads x, (numbers (decodeAll plan reads)).get? tag.key = some x ↔
    Table.IsLast (tagNumbers (decodeAll plan reads)) tag x
  /-- The bus shows the last reading of the tag, or what it showed before. -/
  shown : ∀ reads device bus reading,
    (publishAll device bus (decodeAll plan reads)).get? (SignalBus.key device tag.key) =
        some reading ↔
      Table.IsLast (decodeAll plan reads) tag reading ∨
        tag ∉ (decodeAll plan reads).map Prod.fst ∧
          bus.get? (SignalBus.key device tag.key) = some reading

section Distinct
variable {plan : ScanPlan} (distinct : (plan.tags.map (·.key)).Nodup) {tag : TagSpec}
  (htag : tag ∈ plan.tags)
include distinct htag

theorem eq_of_key {other : TagSpec} (hother : other ∈ plan.tags) (same : other.key = tag.key) :
    other = tag :=
  List.inj_on_of_nodup_map distinct hother htag same

theorem find?_key : plan.find? tag.key = some tag := find?_of_nodup distinct htag

theorem get?_numbers_key (reads : List BlockRead) (x : Float) :
    (numbers (decodeAll plan reads)).get? tag.key = some x ↔
      Table.IsLast (tagNumbers (decodeAll plan reads)) tag x := by
  rw [get?_numbers_eq_some_iff, numeric_eq]
  refine Table.isLast_relabel TagSpec.key tag fun entry hentry same => ?_
  obtain ⟨reading, hreading⟩ := fst_mem_of_tagNumbers hentry
  exact eq_of_key distinct htag (fst_mem_tags_of_decodeAll hreading) same

theorem get?_publishAll_key (reads : List BlockRead) (device : String) (bus : SignalBus)
    (reading : Reading) :
    (publishAll device bus (decodeAll plan reads)).get? (SignalBus.key device tag.key) =
        some reading ↔
      Table.IsLast (decodeAll plan reads) tag reading ∨
        tag ∉ (decodeAll plan reads).map Prod.fst ∧
          bus.get? (SignalBus.key device tag.key) = some reading := by
  have apart : ∀ entry ∈ decodeAll plan reads,
      SignalBus.key device entry.1.key = SignalBus.key device tag.key → entry.1 = tag :=
    fun entry hentry same => eq_of_key distinct htag (fst_mem_tags_of_decodeAll hentry)
      (SignalBus.key_injective device same)
  have absent : SignalBus.key device tag.key ∉
        (published device (decodeAll plan reads)).map Prod.fst ↔
      tag ∉ (decodeAll plan reads).map Prod.fst := by
    refine not_congr ?_
    simp only [published, List.map_map, List.mem_map, Function.comp_def]
    exact ⟨fun ⟨entry, hentry, same⟩ => ⟨entry, hentry, apart entry hentry same⟩,
      fun ⟨entry, hentry, same⟩ => ⟨entry, hentry, by rw [same]⟩⟩
  rw [get?_publishAll_eq_some_iff, absent, published,
    Table.isLast_relabel (fun tag : TagSpec => SignalBus.key device tag.key) tag apart]

theorem identifies : plan.Identifies tag where
  found := find?_key distinct htag
  number := get?_numbers_key distinct htag
  shown := get?_publishAll_key distinct htag

end Distinct

end ScanPlan

namespace DeviceSettings

/-- The keys of an accepted device are distinct just if its tags are spelled apart, as plainly named
tags are. Then a key stands for its tag wherever it is looked up, also by a rule. -/
theorem nodup_keys_iff_spelledApart {device : DeviceSettings} (valid : device.validate = .ok ()) :
    ∃ tags, device.tags.flatten = .ok tags ∧
      ((tags.map (·.key)).Nodup ↔ device.tags.SpelledApart) ∧
      (device.tags.PlainlyNamed → device.tags.SpelledApart) ∧
      (device.tags.SpelledApart → ∀ settings plan, ScanPlan.build device.tags settings = .ok plan →
        (∀ tag ∈ tags, plan.Identifies tag) ∧
        ∀ rule ∈ device.rules, ∃ tag ∈ tags, tag.key = rule.tag ∧ plan.Identifies tag) := by
  obtain ⟨tags, flat, watched⟩ := (validate_eq_ok_iff.mp valid).watched
  have distinct := TagTree.nodup_keys_iff flat
  refine ⟨tags, flat, distinct, TagTree.PlainlyNamed.spelledApart, fun apart settings plan h => ?_⟩
  obtain rfl : plan.tags = tags := Except.ok.inj ((ScanPlan.tags_of_build h).symm.trans flat)
  refine ⟨fun tag htag => ScanPlan.identifies (distinct.mpr apart) htag, fun rule hrule => ?_⟩
  obtain ⟨tag, htag, key⟩ := List.mem_map.mp (watched rule hrule)
  exact ⟨tag, htag, key, ScanPlan.identifies (distinct.mpr apart) htag⟩

end DeviceSettings

def pressLine : DeviceSettings where
  name := "press"
  host := "10.0.0.7"
  tags := .group [
    ("line", .group [
      ("speed", .tag { address := 40001, type := .integer }),
      ("2", .group [("speed", .tag { address := 40003, type := .real })])]),
    ("speed", .tag { address := 40005, type := .integer })]
  rules := [{ id := "fast", name := "Too fast", tag := "line/2/speed" }]

theorem pressLine_nodup_keys_iff :
    pressLine.validate = .ok () ∧ pressLine.tags.PlainlyNamed ∧
    ∃ tags, pressLine.tags.flatten = .ok tags ∧
      ((tags.map (·.key)).Nodup ↔ pressLine.tags.SpelledApart) ∧
      (pressLine.tags.PlainlyNamed → pressLine.tags.SpelledApart) ∧
      (pressLine.tags.SpelledApart →
        ∀ settings plan, ScanPlan.build pressLine.tags settings = .ok plan →
        (∀ tag ∈ tags, plan.Identifies tag) ∧
        ∀ rule ∈ pressLine.rules, ∃ tag ∈ tags, tag.key = rule.tag ∧ plan.Identifies tag) :=
  ⟨rfl, by simp [pressLine, TagTree.PlainlyNamed, TagTree.ChildrenPlain],
    DeviceSettings.nodup_keys_iff_spelledApart rfl⟩

/-- A press of which two tags have the key `line/speed`. -/
def confusedPressLine : DeviceSettings where
  name := "press"
  host := "10.0.0.7"
  tags := .group [
    ("line/speed", .tag { address := 40001, type := .integer }),
    ("line", .group [("speed", .tag { address := 40002, type := .integer })])]

theorem confusedPressLine_shares_key :
    ¬∀ device : DeviceSettings, device.validate = .ok () →
      ∀ tags, device.tags.flatten = .ok tags → (tags.map (·.key)).Nodup := by
  intro claimed
  have distinct := claimed confusedPressLine rfl _ rfl
  exact absurd distinct (by decide)

end PlcMonitor
