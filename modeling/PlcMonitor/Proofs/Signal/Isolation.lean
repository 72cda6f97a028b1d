import Mathlib.Data.List.Nodup
import Mathlib.Data.String.Basic
import PlcMonitor.Proofs.Table
import PlcMonitor.Proofs.Text.Joined
import PlcMonitor.Signal.Bus

/-! What a bus shows of one device. Its snapshot agrees with looking up single signals, but all
devices share one table, in which a signal is named by its device and its tag joined by a slash.
So devices are kept apart just if the name of none goes on behind that of another with a slash. -/
namespace PlcMonitor

structure Publication where
  device : String
  tag : String
  reading : Reading

namespace SignalBus

def publishEach (bus : SignalBus) (publications : List Publication) : SignalBus :=
  publications.foldl (fun bus made => bus.publish made.device made.tag made.reading) bus

def named (publications : List Publication) : List (String × Reading) :=
  publications.map fun made => (key made.device made.tag, made.reading)

def addressed (publications : List Publication) : List ((String × String) × Reading) :=
  publications.map fun made => ((made.device, made.tag), made.reading)

theorem signals_publishEach (bus : SignalBus) (publications : List Publication) :
    (bus.publishEach publications).signals = bus.signals.insertAll (named publications) := by
  induction publications generalizing bus with
  | nil => rfl
  | cons made rest ih => exact ih (bus.publish made.device made.tag made.reading)

theorem ascending_publishEach (publications : List Publication) :
    (publishEach {} publications).signals.Ascending := by
  have empty : (Table.empty : Table String Reading).Ascending := List.Pairwise.nil
  rw [signals_publishEach]
  exact Table.ascending_insertAll empty _

/-- A name shows the last reading that was published under it, for whatever device. -/
theorem get?_publishEach_eq_some_iff {publications : List Publication} {name : String}
    {reading : Reading} : (publishEach {} publications).get? name = some reading ↔
      Table.IsLast (named publications) name reading := by
  rw [get?, signals_publishEach, Table.get?_insertAll_eq_some_iff]
  refine or_iff_left ?_
  rintro ⟨-, none⟩
  cases none

theorem toList_key (device tag : String) :
    (key device tag).toList = device.toList ++ '/' :: tag.toList := by
  simp [key]

theorem key_eq_iff {device tag device' tag' : String} :
    key device tag = key device' tag' ↔ (device = device' ∧ tag = tag') ∨
      Reaches '/' device.toList tag.toList device'.toList tag'.toList ∨
      Reaches '/' device'.toList tag'.toList device.toList tag.toList := by
  rw [← String.toList_inj, toList_key, toList_key, append_cons_eq_iff, String.toList_inj,
    String.toList_inj]

theorem key_injective (device : String) : Function.Injective (key device) := by
  intro tag tag' same
  rw [← String.toList_inj, toList_key, toList_key] at same
  simpa [String.toList_inj] using same

theorem behind?_eq_some_iff {device name tag : String} :
    behind? (device ++ "/") name = some tag ↔ name = key device tag := by
  rw [behind?, Option.map_eq_some_iff]
  simp only [List.isPrefixOf?_eq_some_iff_append_eq]
  constructor
  · rintro ⟨rest, front, rfl⟩
    rw [← String.toList_inj, toList_key, ← front]
    simp
  · rintro rfl
    exact ⟨tag.toList, by simp [toList_key], String.ofList_toList⟩

def ownEntries (bus : SignalBus) (device : String) : List (String × Reading) :=
  bus.signals.entries.filterMap fun (name, reading) =>
    (behind? (device ++ "/") name).map fun tag => (tag, reading)

theorem mem_ownEntries {bus : SignalBus} {device tag : String} {reading : Reading} :
    (tag, reading) ∈ bus.ownEntries device ↔ (key device tag, reading) ∈ bus.signals.entries := by
  simp only [ownEntries, List.mem_filterMap, Option.map_eq_some_iff, behind?_eq_some_iff,
    Prod.mk.injEq]
  constructor
  · rintro ⟨_, hentry, _, named, rfl, rfl⟩
    rwa [← named]
  · intro hentry
    exact ⟨_, hentry, tag, rfl, rfl, rfl⟩

theorem map_fst_ownEntries (bus : SignalBus) (device : String) :
    (bus.ownEntries device).map Prod.fst =
      (bus.signals.entries.map Prod.fst).filterMap (behind? (device ++ "/")) := by
  rw [ownEntries, List.map_filterMap, List.filterMap_map]
  refine List.filterMap_congr fun entry _ => ?_
  simp [Function.comp_def]

theorem nodup_ownEntries {bus : SignalBus} (ascending : bus.signals.Ascending) (device : String) :
    ((bus.ownEntries device).map Prod.fst).Nodup := by
  rw [map_fst_ownEntries]
  refine List.Nodup.filterMap (fun name name' tag hname hname' => ?_) ascending.nodup
  rw [behind?_eq_some_iff.mp hname, behind?_eq_some_iff.mp hname']

theorem get?_readingsOf {bus : SignalBus} (ascending : bus.signals.Ascending)
    (device tag : String) : (bus.readingsOf device).get? tag = bus.get? (key device tag) := by
  have own : bus.readingsOf device = Table.ofList (bus.ownEntries device) := rfl
  ext reading
  rw [own, Table.get?_ofList_eq_some_iff (nodup_ownEntries ascending device), mem_ownEntries]
  exact Table.mem_entries_iff ascending

/-- The bus shows of the device what was last published for it, and nothing else. -/
structure Isolates (publications : List Publication) (device : String) : Prop where
  snapshot : ∀ tag reading,
    ((publishEach {} publications).readingsOf device).get? tag = some reading ↔
      Table.IsLast (addressed publications) (device, tag) reading
  single : ∀ tag reading, (publishEach {} publications).get? (key device tag) = some reading ↔
    Table.IsLast (addressed publications) (device, tag) reading

/-- No device is named like a signal of one of them. -/
def NamedApart (devices : List String) : Prop :=
  ∀ device ∈ devices, ∀ other ∈ devices, ∀ rest, other ≠ key device rest

theorem exists_key_of_reaches {left right left' right' : String}
    (reaches : Reaches '/' left.toList right.toList left'.toList right'.toList) :
    ∃ rest, left = key left' rest := by
  obtain ⟨between, goesOn, -⟩ := reaches
  refine ⟨String.ofList between, ?_⟩
  rw [← String.toList_inj, toList_key, goesOn, String.toList_ofList]

theorem NamedApart.eq_of_key {devices : List String} (apart : NamedApart devices)
    {device other tag tag' : String} (hdevice : device ∈ devices) (hother : other ∈ devices)
    (same : key other tag' = key device tag) : (other, tag') = (device, tag) := by
  rcases key_eq_iff.mp same with ⟨rfl, rfl⟩ | reaches | reaches
  · rfl
  · obtain ⟨rest, under⟩ := exists_key_of_reaches reaches
    exact absurd under (apart device hdevice other hother rest)
  · obtain ⟨rest, under⟩ := exists_key_of_reaches reaches
    exact absurd under (apart other hother device hdevice rest)

theorem NamedApart.isolates {devices : List String} (apart : NamedApart devices)
    {publications : List Publication} (known : ∀ made ∈ publications, made.device ∈ devices)
    {device : String} (hdevice : device ∈ devices) : Isolates publications device := by
  have relabelled : named publications =
      (addressed publications).map fun (address, reading) =>
        (key address.1 address.2, reading) := by
    simp [named, addressed]
  have single : ∀ tag reading,
      (publishEach {} publications).get? (key device tag) = some reading ↔
        Table.IsLast (addressed publications) (device, tag) reading := by
    intro tag reading
    rw [get?_publishEach_eq_some_iff, relabelled]
    refine Table.isLast_relabel (fun address : String × String => key address.1 address.2)
      (device, tag) fun entry hentry same => ?_
    obtain ⟨made, hmade, rfl⟩ := List.mem_map.mp hentry
    exact apart.eq_of_key hdevice (known made hmade) same
  refine ⟨fun tag reading => ?_, single⟩
  rw [get?_readingsOf (ascending_publishEach publications)]
  exact single tag reading

theorem key_key (device rest tag : String) :
    key (key device rest) tag = key device (key rest tag) := by
  simp [← String.toList_inj, toList_key]

/-- Devices are shown apart, whatever is published for them, just if they are named apart, as names
without a slash are. -/
theorem isolates_iff_namedApart (devices : List String) :
    ((∀ publications : List Publication, (∀ made ∈ publications, made.device ∈ devices) →
        ∀ device ∈ devices, Isolates publications device) ↔ NamedApart devices) ∧
    ((∀ device ∈ devices, '/' ∉ device.toList) → NamedApart devices) ∧
    ∀ (publications : List Publication) (device tag : String),
      ((publishEach {} publications).readingsOf device).get? tag =
        (publishEach {} publications).get? (key device tag) := by
  refine ⟨⟨fun isolates => ?_, fun apart publications known device hdevice => ?_⟩, ?_, ?_⟩
  · rintro device hdevice _ hother rest rfl
    -- what is published for the longer name shows up under the shorter one
    let reading : Reading := ⟨.int 0, []⟩
    have own := (isolates [⟨key device rest, "", reading⟩] (List.forall_mem_singleton.mpr hother)
      device hdevice).single (key rest "") reading
    have shown := get?_publish_self {} (key device rest) "" reading
    rw [key_key] at shown
    have same := List.mem_singleton.mp (own.mp shown).mem
    have empty : key rest "" = "" := congrArg (·.1.2) same
    simpa [toList_key] using congrArg String.toList empty
  · exact apart.isolates known hdevice
  · rintro solid device - _ hother rest rfl
    exact solid _ hother (by simp [toList_key])
  · exact fun publications => get?_readingsOf (ascending_publishEach publications)

/-- The second of these devices is named like a signal of the first, which shows it as a signal of
its own. -/
theorem press_shows_line : ¬∀ (publications : List Publication) (device : String),
    Isolates publications device := by
  intro claimed
  let speed : Reading := ⟨.int 1500, [1500]⟩
  let stray : Reading := ⟨.int 20, [20]⟩
  have own := (claimed [⟨"press", "speed", speed⟩, ⟨"press/line", "speed", stray⟩]
    "press").snapshot "line/speed" stray
  have same : key "press" "line/speed" = key "press/line" "speed" := by decide
  rw [get?_readingsOf (ascending_publishEach _), same] at own
  have last := (own.mp (get?_publish_self _ "press/line" "speed" stray)).mem
  simp [addressed] at last

end SignalBus
end PlcMonitor
