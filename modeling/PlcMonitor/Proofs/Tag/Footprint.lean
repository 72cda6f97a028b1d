import PlcMonitor.Proofs.Tag.Guarded
import PlcMonitor.Proofs.Tag.Labels

/-! Footprints of tags. A tag is built just where the registers of its type exist, and its written
address and its type alone say which these are. -/
namespace PlcMonitor

/-- How far behind the register of its own number a value begins. -/
def DataType.lead : DataType → Nat
  | .real => 1
  | .integer | .digital => 0

theorem toNat_narrowed {n : Nat} (h : n < registerCount) : n.toUInt16.toNat = n :=
  Nat.mod_eq_of_lt h

theorem registerNumber_eq_ok_iff {address : UInt32} {base : UInt16} :
    registerNumber address = .ok base ↔ address.toNat = addressBase + base.toNat := by
  have small : base.toNat < registerCount := base.toNat_lt
  unfold registerNumber
  split
  · rename_i inside
    rw [Except.ok.injEq, ← UInt16.toNat_inj, toNat_narrowed inside.2]
    omega
  · rename_i outside
    exact iff_of_false nofun (by omega)

theorem exists_registerNumber_iff {address : UInt32} :
    (∃ base, registerNumber address = .ok base) ↔
      addressBase ≤ address.toNat ∧ address.toNat - addressBase < registerCount := by
  unfold registerNumber
  split
  · exact iff_of_true ⟨_, rfl⟩ ‹_›
  · exact iff_of_false nofun ‹_›

theorem readSpan_eq_bind (address : UInt32) (type : DataType) :
    readSpan address type = registerNumber address >>= fun base =>
      if base.toNat + type.lead + type.registers.toNat ≤ registerCount then
        .ok ⟨(base.toNat + type.lead).toUInt16, type.registers⟩
      else .error (.pastEnd address type) := by
  cases type <;> rfl

theorem lead_lt {type : DataType} {base : Nat}
    (fits : base + type.lead + type.registers.toNat ≤ registerCount) :
    base + type.lead < registerCount := by
  have some : 0 < type.registers.toNat := UInt16.lt_iff_toNat_lt.mp type.registers_pos
  omega

theorem readSpan_eq_ok_iff {address : UInt32} {type : DataType} {span : Span} :
    readSpan address type = .ok span ↔ ∃ base, registerNumber address = .ok base ∧
      base.toNat + type.lead + type.registers.toNat ≤ registerCount ∧
      span.first.toNat = base.toNat + type.lead ∧ span.count = type.registers := by
  rw [readSpan_eq_bind, bind_eq_ok]
  refine exists_congr fun base => and_congr_right fun _ => ?_
  obtain ⟨first, count⟩ := span
  split
  · rename_i fits
    rw [Except.ok.injEq, Span.mk.injEq, ← UInt16.toNat_inj, toNat_narrowed (lead_lt fits),
      and_iff_right fits]
    exact and_congr eq_comm eq_comm
  · rename_i beyond
    exact iff_of_false nofun fun h => beyond h.1

theorem exists_readSpan_iff {address : UInt32} {type : DataType} :
    (∃ span, readSpan address type = .ok span) ↔ addressBase ≤ address.toNat ∧
      address.toNat - addressBase + type.lead + type.registers.toNat - 1 < registerCount := by
  have some : 0 < type.registers.toNat := UInt16.lt_iff_toNat_lt.mp type.registers_pos
  constructor
  · rintro ⟨span, h⟩
    obtain ⟨base, number, fits, -⟩ := readSpan_eq_ok_iff.mp h
    have := registerNumber_eq_ok_iff.mp number
    omega
  · rintro ⟨least, fits⟩
    obtain ⟨base, number⟩ := exists_registerNumber_iff.mpr ⟨least, by omega⟩
    have := registerNumber_eq_ok_iff.mp number
    have fits : base.toNat + type.lead + type.registers.toNat ≤ registerCount := by omega
    exact ⟨⟨(base.toNat + type.lead).toUInt16, type.registers⟩, readSpan_eq_ok_iff.mpr
      ⟨base, number, fits, toNat_narrowed (lead_lt fits), rfl⟩⟩

theorem TagDefinition.acceptable_iff {definition : TagDefinition} :
    definition.Acceptable ↔
      (∃ span, readSpan definition.address definition.type = .ok span) ∧
        ∀ entry ∈ definition.labels, ∃ bit, BitKey.parse entry.1 = .bit bit := by
  have named : (∀ labels, definition.bits = some labels →
      ∀ entry ∈ labels.entries, ∃ bit, BitKey.parse entry.1 = .bit bit) ↔
        ∀ entry ∈ definition.labels, ∃ bit, BitKey.parse entry.1 = .bit bit := by
    unfold labels
    cases definition.bits <;> simp
  exact ⟨fun h => ⟨h.footprint, named.mp h.bits⟩, fun h => ⟨h.1, named.mpr h.2⟩⟩

namespace TagSpec

section Built
variable {path : List String} {definition : TagDefinition} {spec : TagSpec}
  (built : ofDefinition path definition = .ok spec)
include built

theorem address_of_definition : spec.address = definition.address := by
  obtain ⟨span, -, h⟩ := bind_eq_ok.mp built
  obtain ⟨base, -, h⟩ := bind_eq_ok.mp h
  obtain ⟨bits, -, h⟩ := bind_eq_ok.mp h
  cases h
  rfl

theorem base_of_definition : registerNumber definition.address = .ok spec.base := by
  obtain ⟨span, -, h⟩ := bind_eq_ok.mp built
  obtain ⟨base, hbase, h⟩ := bind_eq_ok.mp h
  obtain ⟨bits, -, h⟩ := bind_eq_ok.mp h
  cases h
  exact mapError_eq_ok.mp hbase

/-- The register of the address, and from it where the value begins and how long it is. -/
theorem span_of_definition :
    definition.address.toNat = addressBase + spec.base.toNat ∧
      spec.span.first.toNat = spec.base.toNat + definition.type.lead ∧
      spec.span.count = definition.type.registers := by
  obtain ⟨base, number, -, span⟩ := readSpan_eq_ok_iff.mp (fields_of_definition built).2.2
  obtain rfl : spec.base = base := Except.ok.inj ((base_of_definition built).symm.trans number)
  exact ⟨registerNumber_eq_ok_iff.mp number, span⟩

end Built

theorem address_eq_of_span {a b : TagSpec} (ha : a.Built) (hb : b.Built) (type : a.type = b.type)
    (span : a.span = b.span) : a.address = b.address := by
  obtain ⟨path, definition, ha⟩ := ha
  obtain ⟨path', definition', hb⟩ := hb
  obtain ⟨address, first, -⟩ := span_of_definition ha
  obtain ⟨address', first', -⟩ := span_of_definition hb
  rw [(fields_of_definition ha).2.1, (fields_of_definition hb).2.1] at type
  rw [address_of_definition ha, address_of_definition hb, ← UInt32.toNat_inj, address, address']
  rw [span, first', type] at first
  omega

/-- A definition whose keys name bits makes a tag just if its address is at least that of register 0
and the last register of its value exists. The tag has the registers that the address and the type
say, in machine words too: no sum or difference leaves its width, and what is narrowed loses
nothing. So tags of one type at different addresses have different registers, and all registers of
the tags of a tree exist. -/
theorem footprint_exact (path : List String) (definition : TagDefinition) :
    ((∃ spec, ofDefinition path definition = .ok spec) ↔
      addressBase ≤ definition.address.toNat ∧
      definition.address.toNat - addressBase + definition.type.lead +
        definition.type.registers.toNat - 1 < registerCount ∧
      ∀ entry ∈ definition.labels, ∃ bit, BitKey.parse entry.1 = .bit bit) ∧
    (∀ spec, ofDefinition path definition = .ok spec →
      spec.base.toNat = definition.address.toNat - addressBase ∧
      spec.span.first.toNat = spec.base.toNat + definition.type.lead ∧
      spec.span.count = definition.type.registers ∧
      (∃ last, Guarded.last spec.span = .ok last ∧
        last.toNat = spec.span.first.toNat + spec.span.count.toNat - 1) ∧
      Guarded.ofDefinition path definition = .ok (.ok spec) ∧
      ∀ other : TagSpec, other.Built → other.type = spec.type → other.address ≠ spec.address →
        other.span ≠ spec.span) ∧
    ∀ {tree : TagTree} {tags : List TagSpec}, tree.flatten = .ok tags → ∀ tag ∈ tags,
      ∀ register, tag.span.Holds register → register < registerCount := by
  refine ⟨?_, fun spec built => ?_, fun flat tag htag register held => ?_⟩
  · rw [exists_ofDefinition_iff, TagDefinition.acceptable_iff, exists_readSpan_iff, and_assoc]
  · obtain ⟨address, first, count⟩ := span_of_definition built
    have placed := (Built.placed ⟨path, definition, built⟩).1
    refine ⟨by omega, first, count, Guarded.last_eq placed.pos, ?_, fun other hother type => ?_⟩
    · rw [Guarded.ofDefinition_eq, built]
      rfl
    · exact mt (address_eq_of_span hother ⟨path, definition, built⟩ type)
  · exact held.2.trans_le (TagTree.flatten_built flat tag htag).placed.1.end_le

/-- A real at the last address that has registers for one, and one at the first written address. -/
def brimReals : TagTree :=
  .group [("flow", .tag { address := 105533, type := .real }),
    ("level", .tag { address := 40001, type := .real })]

theorem footprint_exact_brimReals :
    let flow : TagSpec :=
      { path := ["flow"], address := 105533, type := .real, base := 65533, span := ⟨65534, 2⟩ }
    let level : TagSpec :=
      { path := ["level"], address := 40001, type := .real, base := 1, span := ⟨2, 2⟩ }
    let definition : TagDefinition := { address := 105533, type := .real }
    ofDefinition ["flow"] definition = .ok flow ∧ level.Built ∧ level.type = flow.type ∧
      level.address ≠ flow.address ∧ brimReals.flatten = .ok [flow, level] ∧
      flow.span.Holds 65535 ∧
      flow.base.toNat = 105533 - addressBase ∧ flow.span.first.toNat = flow.base.toNat + 1 ∧
      (∃ last, Guarded.last flow.span = .ok last ∧ last.toNat = 65535) ∧
      Guarded.ofDefinition ["flow"] definition = .ok (.ok flow) ∧ level.span ≠ flow.span ∧
      65535 < registerCount := by
  intro flow level definition
  have built : ofDefinition ["flow"] definition = .ok flow := by cbv
  have other : level.Built := ⟨["level"], { address := 40001, type := .real }, rfl⟩
  have flat : brimReals.flatten = .ok [flow, level] := by cbv
  have held : flow.span.Holds 65535 := ⟨by decide, by decide⟩
  obtain ⟨-, footprint, inRange⟩ := footprint_exact ["flow"] definition
  obtain ⟨base, first, -, ⟨last, computed, end_eq⟩, guarded, apart⟩ := footprint flow built
  exact ⟨built, other, rfl, by decide, flat, held, base, first,
    ⟨last, computed, end_eq.trans (by decide)⟩, guarded, apart level other rfl (by decide),
    inRange flat flow List.mem_cons_self 65535 held⟩

end TagSpec
end PlcMonitor
