import Mathlib.Data.List.Nodup
import Mathlib.Order.Fin.Basic
import PlcMonitor.Proofs.Table
import PlcMonitor.Proofs.Tag.Leaves
import PlcMonitor.Reading.Decode

/-! What a word shows under the labels of its bits. The entries of a label map are filed by bit and
then shown by label, and where two of them meet on either way, one is lost. -/
namespace PlcMonitor

def TagDefinition.labels (definition : TagDefinition) : List (String × String) :=
  (definition.bits.map (·.entries)).getD []

theorem exists_single (bit : Fin 16) :
    ∃ word : UInt16, ∀ other, testBit word other = decide (other = bit) := by
  refine ⟨(1 <<< bit.val : Nat).toUInt16, ?_⟩
  revert bit
  decide

namespace TagSpec

/-- The bits that the keys name, each with its label. -/
def marks (entries : List (String × String)) : List (Fin 16 × String) :=
  entries.filterMap fun entry =>
    match BitKey.parse entry.1 with
    | .bit bit => some (bit, entry.2)
    | .invalid | .uncut => none

theorem mem_marks {entries : List (String × String)} {bit : Fin 16} {label : String} :
    (bit, label) ∈ marks entries ↔ ∃ raw, (raw, label) ∈ entries ∧ BitKey.parse raw = .bit bit := by
  rw [marks, List.mem_filterMap]
  constructor
  · rintro ⟨⟨raw, label⟩, hentry, h⟩
    cases named : BitKey.parse raw with
    | bit index =>
      rw [named] at h
      cases h
      exact ⟨raw, hentry, named⟩
    | invalid | uncut =>
      rw [named] at h
      cases h
  · rintro ⟨raw, hentry, named⟩
    exact ⟨(raw, label), hentry, by rw [named]⟩

theorem bitLabels_eq {key : String} {entries : List (String × String)}
    {labels all : Table (Fin 16) String} (h : bitLabels key entries labels = .ok all) :
    all = labels.insertAll (marks entries) := by
  induction entries generalizing labels with
  | nil => exact (Except.ok.inj h).symm
  | cons entry rest ih =>
    obtain ⟨raw, label⟩ := entry
    unfold bitLabels at h
    cases named : BitKey.parse raw with
    | bit index =>
      rw [named] at h
      simp [ih h, marks, named, Table.insertAll]
    | invalid | uncut =>
      rw [named] at h
      cases h

section Accepted
variable {path : List String} {definition : TagDefinition} {spec : TagSpec}
  (accepted : ofDefinition path definition = .ok spec)
include accepted

theorem bits_of_definition :
    spec.bits = Table.empty.insertAll (marks definition.labels) ∧
      ∀ entry ∈ definition.labels, ∃ bit, BitKey.parse entry.1 = .bit bit := by
  obtain ⟨span, -, h⟩ := bind_eq_ok.mp accepted
  obtain ⟨base, -, h⟩ := bind_eq_ok.mp h
  obtain ⟨bits, hbits, h⟩ := bind_eq_ok.mp h
  cases h
  exact ⟨bitLabels_eq hbits, exists_bitLabels_iff.mp ⟨bits, hbits⟩⟩

theorem ascending_bits : spec.bits.Ascending := by
  rw [(bits_of_definition accepted).1]
  exact Table.ascending_insertAll (show Table.empty.Ascending from List.Pairwise.nil) _

theorem mem_bits_iff {bit : Fin 16} {label : String} :
    (bit, label) ∈ spec.bits.entries ↔ Table.IsLast (marks definition.labels) bit label := by
  rw [Table.mem_entries_iff (ascending_bits accepted), (bits_of_definition accepted).1,
    Table.get?_insertAll_eq_some_iff]
  simp

theorem entry_of_filed {bit : Fin 16} {label : String} (filed : (bit, label) ∈ spec.bits.entries) :
    ∃ raw, (raw, label) ∈ definition.labels ∧ BitKey.parse raw = .bit bit :=
  mem_marks.mp ((mem_bits_iff accepted).mp filed).mem

theorem exists_filed {raw label : String} (hentry : (raw, label) ∈ definition.labels) :
    ∃ bit last, BitKey.parse raw = .bit bit ∧ (bit, last) ∈ spec.bits.entries := by
  obtain ⟨filed, each⟩ := bits_of_definition accepted
  obtain ⟨bit, named⟩ := each _ hentry
  have found : (spec.bits.get? bit).isSome = true := by
    rw [filed, Table.isSome_get?_insertAll]
    exact .inl (List.mem_map.mpr ⟨_, mem_marks.mpr ⟨raw, hentry, named⟩, rfl⟩)
  obtain ⟨last, found⟩ := Option.isSome_iff_exists.mp found
  exact ⟨bit, last, named, (Table.mem_entries_iff (ascending_bits accepted)).mpr found⟩

/-- A label is shown with the bit that is the last to carry it. -/
theorem bit_decode_iff (digital : definition.type = .digital) (word : UInt16) :
    ∃ reading, spec.decode [word] = some reading ∧ ∀ label state,
      reading.value.bit label = some state ↔
        Table.IsLast (spec.bits.entries.map fun (bit, label) => (label, testBit word bit))
          label state := by
  obtain ⟨-, type, -⟩ := fields_of_definition accepted
  have count := (Built.placed ⟨path, definition, accepted⟩).2
  rw [type.trans digital] at count
  refine ⟨⟨spec.decodeDigital word, [word]⟩, ?_, fun label state => ?_⟩
  · unfold decode decodeValue
    rw [count, type.trans digital]
    rfl
  · refine Table.get?_insertAll_eq_some_iff.trans ?_
    simp

end Accepted

/-- Whatever the word, the label is shown with the state of the bit that the key names. -/
def Shows (spec : TagSpec) (raw label : String) : Prop :=
  ∃ bit, BitKey.parse raw = .bit bit ∧ ∀ word, ∃ reading, spec.decode [word] = some reading ∧
    reading.value.bit label = some (testBit word bit)

theorem Shows.unique {spec : TagSpec} {raw raw' label : String} (shown : spec.Shows raw label)
    (shown' : spec.Shows raw' label) : BitKey.parse raw = BitKey.parse raw' := by
  obtain ⟨bit, named, shown⟩ := shown
  obtain ⟨bit', named', shown'⟩ := shown'
  obtain ⟨word, alone⟩ := exists_single bit
  obtain ⟨reading, decoded, state⟩ := shown word
  obtain ⟨reading', decoded', state'⟩ := shown' word
  obtain rfl := Option.some.inj (decoded.symm.trans decoded')
  have same := Option.some.inj (state.symm.trans state')
  rw [alone, alone] at same
  obtain rfl : bit' = bit := by simpa using same
  rw [named, named']

/-- Two entries name one bit just when they have one label. -/
def Paired (entries : List (String × String)) : Prop :=
  ∀ entry ∈ entries, ∀ other ∈ entries,
    BitKey.parse entry.1 = BitKey.parse other.1 ↔ entry.2 = other.2

section Shown
variable {path : List String} {definition : TagDefinition} {spec : TagSpec}
  (accepted : ofDefinition path definition = .ok spec) (digital : definition.type = .digital)
include accepted digital

theorem Shows.filed {raw label : String} (shown : spec.Shows raw label) :
    ∃ bit, BitKey.parse raw = .bit bit ∧ (bit, label) ∈ spec.bits.entries := by
  obtain ⟨bit, named, shown⟩ := shown
  -- a word that has this bit alone tells it from the other bits with the label
  obtain ⟨word, alone⟩ := exists_single bit
  obtain ⟨reading, decoded, shown⟩ := shown word
  obtain ⟨reading', decoded', bits⟩ := bit_decode_iff accepted digital word
  obtain rfl := Option.some.inj (decoded.symm.trans decoded')
  obtain ⟨⟨bit', label'⟩, hentry, same⟩ := List.mem_map.mp ((bits _ _).mp shown).mem
  obtain ⟨rfl, state⟩ := Prod.mk.inj same
  rw [alone, alone] at state
  obtain rfl : bit' = bit := by simpa using state
  exact ⟨bit', named, hentry⟩

theorem paired_of_shows (shows : ∀ entry ∈ definition.labels, spec.Shows entry.1 entry.2) :
    Paired definition.labels := by
  rintro ⟨raw, label⟩ hentry ⟨raw', label'⟩ hother
  constructor
  · intro same
    obtain ⟨bit, named, filed⟩ := (shows _ hentry).filed accepted digital
    obtain ⟨bit', named', filed'⟩ := (shows _ hother).filed accepted digital
    obtain rfl : bit = bit' := BitKey.bit.inj (named.symm.trans (same.trans named'))
    rw [Table.mem_entries_iff (ascending_bits accepted)] at filed filed'
    exact Option.some.inj (filed.symm.trans filed')
  · rintro rfl
    exact (shows _ hentry).unique (shows _ hother)

theorem Paired.shows (paired : Paired definition.labels) {raw label : String}
    (hentry : (raw, label) ∈ definition.labels) : spec.Shows raw label := by
  obtain ⟨bit, last, named, filed⟩ := exists_filed accepted hentry
  obtain ⟨raw', hother, named'⟩ := entry_of_filed accepted filed
  obtain rfl : label = last := (paired _ hentry _ hother).mp (named.trans named'.symm)
  have apart : ∀ x ∈ spec.bits.entries, ∀ y ∈ spec.bits.entries, x.2 = y.2 → x = y := by
    rintro ⟨b, l⟩ hx ⟨b', _⟩ hy rfl
    obtain ⟨raw, hentry, named⟩ := entry_of_filed accepted hx
    obtain ⟨raw', hother, named'⟩ := entry_of_filed accepted hy
    obtain rfl : b = b' := BitKey.bit.inj
      (named.symm.trans (((paired _ hentry _ hother).mpr rfl).trans named'))
    rfl
  refine ⟨bit, named, fun word => ?_⟩
  obtain ⟨reading, decoded, bits⟩ := bit_decode_iff accepted digital word
  have distinct : ((spec.bits.entries.map fun (bit, label) => (label, testBit word bit)).map
      Prod.fst).Nodup := by
    rw [List.map_map]
    exact (List.Nodup.of_map _ (ascending_bits accepted).nodup).map_on apart
  refine ⟨reading, decoded, (bits _ _).mpr ((Table.isLast_iff_mem distinct).mpr ?_)⟩
  exact List.mem_map.mpr ⟨_, filed, rfl⟩

end Shown

/-- A word shows every entry of an accepted label map just if the entries name as many bits as they
have labels, each bit with one label and each label for one bit. In any case what it shows under a
label is the state of a bit that an entry gives this label. -/
theorem shows_labels_iff {path : List String} {definition : TagDefinition} {spec : TagSpec}
    (accepted : ofDefinition path definition = .ok spec) (digital : definition.type = .digital) :
    ((∀ entry ∈ definition.labels, spec.Shows entry.1 entry.2) ↔ Paired definition.labels) ∧
    ∀ word, ∃ reading, spec.decode [word] = some reading ∧
      ∀ label state, reading.value.bit label = some state → ∃ raw bit,
        (raw, label) ∈ definition.labels ∧ BitKey.parse raw = .bit bit ∧ testBit word bit = state := by
  refine ⟨⟨paired_of_shows accepted digital,
    fun paired entry hentry => paired.shows accepted digital hentry⟩, fun word => ?_⟩
  obtain ⟨reading, decoded, bits⟩ := bit_decode_iff accepted digital word
  refine ⟨reading, decoded, fun label state shown => ?_⟩
  obtain ⟨⟨bit, label'⟩, hentry, same⟩ := List.mem_map.mp ((bits _ _).mp shown).mem
  obtain ⟨rfl, state⟩ := Prod.mk.inj same
  obtain ⟨raw, hraw, named⟩ := entry_of_filed accepted hentry
  exact ⟨raw, bit, hraw, named, state⟩

def pumpBits : TagDefinition where
  address := 40100
  type := .digital
  bits := some (Table.ofList [("BIT 0", "RUNNING"), ("bit9", "PUMP ON"), (" 15 ", "FAULT")])

theorem shows_pumpBits_iff :
    ∃ spec, ofDefinition ["pump"] pumpBits = .ok spec ∧ pumpBits.type = .digital ∧
      ((∀ entry ∈ pumpBits.labels, spec.Shows entry.1 entry.2) ↔ Paired pumpBits.labels) ∧
      ∀ word, ∃ reading, spec.decode [word] = some reading ∧
        ∀ label state, reading.value.bit label = some state → ∃ raw bit,
          (raw, label) ∈ pumpBits.labels ∧ BitKey.parse raw = .bit bit ∧
            testBit word bit = state := by
  obtain ⟨spec, accepted⟩ : ∃ spec, ofDefinition ["pump"] pumpBits = .ok spec := ⟨_, rfl⟩
  exact ⟨spec, accepted, rfl, shows_labels_iff accepted rfl⟩

/-- Two keys that name the same bit. -/
def doublyLabelled : TagDefinition where
  address := 40001
  type := .digital
  bits := some (Table.ofList [("0", "STOPPED"), ("BIT 0", "RUNNING")])

/-- Not every entry is shown: under the label of the first key there is nothing. -/
theorem doublyLabelled_drops_label :
    ¬∀ (path : List String) (definition : TagDefinition) (spec : TagSpec),
      ofDefinition path definition = .ok spec → definition.type = .digital →
        ∀ entry ∈ definition.labels, spec.Shows entry.1 entry.2 := by
  intro claimed
  obtain ⟨bit, -, shown⟩ := claimed ["pump"] doublyLabelled _ rfl rfl ("0", "STOPPED") (by decide)
  obtain ⟨reading, decoded, shown⟩ := shown 0
  obtain rfl := Option.some.inj decoded
  cases shown

end TagSpec
end PlcMonitor
