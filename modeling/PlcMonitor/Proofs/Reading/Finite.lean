import Mathlib
import PlcMonitor.Proofs.Decimal.Magnitude
import PlcMonitor.Proofs.Poll.Polled
import PlcMonitor.Proofs.Scan.Plan

/-! Which numbers readings can have. Those that registers hold are finite, but scaling can leave the
range of doubles, and what comes out then is a reading as any other. -/
namespace PlcMonitor
open Decimal

theorem below_leading_lt {fraction : Nat} (some : fraction ≠ 0) (small : fraction < 2 ^ 23) :
    (fraction - 2 ^ fraction.log2) * 2 ^ (52 - fraction.log2) < 2 ^ 52 := by
  have digits : fraction.log2 < 23 := (Nat.log2_lt some).mpr small
  have top : fraction < 2 ^ (fraction.log2 + 1) := (Nat.log2_lt some).mp (Nat.lt_succ_self _)
  have rest : fraction - 2 ^ fraction.log2 < 2 ^ fraction.log2 := by
    rw [Nat.pow_succ] at top
    omega
  calc (fraction - 2 ^ fraction.log2) * 2 ^ (52 - fraction.log2)
    _ < 2 ^ fraction.log2 * 2 ^ (52 - fraction.log2) :=
      Nat.mul_lt_mul_of_pos_right rest (Nat.two_pow_pos _)
    _ = 2 ^ 52 := by rw [← Nat.pow_add, Nat.add_sub_cancel' (by omega)]

/-- A finite single is below `2 ^ 128`, and stays so as a double. -/
theorem widen_finite {bits : Nat} (finite : singleIsFinite bits = true) :
    widen bits < UInt64.size ∧ double.biased (widen bits) ≤ 1150 := by
  have field : single.biased bits ≠ 255 := of_decide_eq_true finite
  have most : single.biased bits < 256 := Nat.mod_lt _ (by decide)
  have small : single.fraction bits < 2 ^ 23 := Nat.mod_lt _ (by decide)
  suffices ∃ sign field fraction, sign ≤ 1 ∧ field ≤ 1150 ∧ fraction < 2 ^ 52 ∧
      widen bits = sign * 2 ^ 63 + field * 2 ^ 52 + fraction by
    obtain ⟨sign, field, fraction, hsign, hfield, hfraction, parts⟩ := this
    have : double.biased (widen bits) = widen bits / 2 ^ 52 % 2 ^ 11 := rfl
    rw [this, parts]
    change _ < 2 ^ 64 ∧ _
    omega
  have sign : (if single.isNegative bits = true then double.signBit else 0) =
      (single.isNegative bits).toNat * 2 ^ 63 := by
    cases single.isNegative bits <;> rfl
  have one : (single.isNegative bits).toNat ≤ 1 := Bool.toNat_le _
  unfold widen
  dsimp only
  rw [sign, if_neg (show ¬single.biased bits = single.maxBiased from field)]
  split
  · exact ⟨_, single.biased bits + 896, single.fraction bits * 2 ^ 29, one, by omega, by omega, rfl⟩
  split
  · exact ⟨_, 0, 0, one, by omega, by omega, by simp⟩
  · next _ some =>
    have digits : (single.fraction bits).log2 < 23 := (Nat.log2_lt some).mpr small
    exact ⟨_, (single.fraction bits).log2 + 874, _, one, by omega, below_leading_lt some small, rfl⟩

theorem within_floatOfSingle {bits : Nat} (finite : singleIsFinite bits = true) :
    Within 128 (floatOfSingle bits) := by
  obtain ⟨fits, field⟩ := widen_finite finite
  have same : (widen bits).toUInt64.toNat = widen bits := Nat.mod_eq_of_lt fits
  exact within_ofBits (by decide) (by decide) (same ▸ field)

namespace Scaling

/-- No part is larger than `10 ^ 90`, and the raw span is no smaller than `10 ^ -90`. -/
structure Moderate (scaling : Scaling) : Prop where
  parts : ∀ part ∈ [scaling.rawZero, scaling.rawFull, scaling.engZero, scaling.engFull],
    -1e90 ≤ part ∧ part ≤ 1e90
  span : scaling.rawFull - scaling.rawZero ≤ -1e-90 ∨ 1e-90 ≤ scaling.rawFull - scaling.rawZero

theorem place?_limit :
    place? (-1e90 : Float).toModel.unpack = some (toLex (-1, toLex (-246, -8843436600416711))) ∧
    place? (1e90 : Float).toModel.unpack = some (toLex (1, toLex (246, 8843436600416711))) := by
  decide +kernel

theorem place?_least :
    place? (-1e-90 : Float).toModel.unpack = some (toLex (-1, toLex (351, -4586997231980143))) ∧
    place? (1e-90 : Float).toModel.unpack = some (toLex (1, toLex (-351, 4586997231980143))) := by
  decide +kernel

theorem Moderate.within {scaling : Scaling} (h : scaling.Moderate) :
    ∀ part ∈ [scaling.rawZero, scaling.rawFull, scaling.engZero, scaling.engFull],
      Within 299 part := by
  intro part hpart
  obtain ⟨above, below⟩ := h.parts part hpart
  exact within_of_between place?_limit.1 place?_limit.2 above below

/-- The quotient is at most `2 ^ 951`. -/
theorem Moderate.isFinite_apply {scaling : Scaling} (h : scaling.Moderate) {raw x : Float}
    (small : Within 128 raw) (scaled : scaling.apply raw = some x) : x.isFinite = true := by
  have within := h.within
  simp only [List.forall_mem_cons] at within
  obtain ⟨rawZero, rawFull, engZero, engFull, -⟩ := within
  have span : Within 300 (scaling.rawFull - scaling.rawZero) :=
    rawFull.sub (by decide) (by decide) rawZero
  have wide : AtLeast (-351) (scaling.rawFull - scaling.rawZero).toModel.unpack :=
    atLeast_of_beyond place?_least.1 place?_least.2 span h.span
  have offset : Within 300 (raw - scaling.rawZero) :=
    (small.mono (by decide)).sub (by decide) (by decide) rawZero
  have range : Within 300 (scaling.engFull - scaling.engZero) :=
    engFull.sub (by decide) (by decide) engZero
  have product : Within 600 ((raw - scaling.rawZero) * (scaling.engFull - scaling.engZero)) :=
    offset.mul (by decide) (by decide) range
  have quotient : Within 951 ((raw - scaling.rawZero) * (scaling.engFull - scaling.engZero) /
      (scaling.rawFull - scaling.rawZero)) :=
    product.div (by decide) (by decide) wide
  have sum : Within 952 (scaling.engZero + (raw - scaling.rawZero) *
      (scaling.engFull - scaling.engZero) / (scaling.rawFull - scaling.rawZero)) :=
    (engZero.mono (by decide)).add (by decide) (by decide) quotient
  simp only [apply, Option.ite_none_left_eq_some] at scaled
  cases scaled.2
  exact sum.isFinite

example : (⟨0, 27648, -20, 150⟩ : Scaling).Moderate := ⟨by decide +kernel, by decide +kernel⟩

end Scaling

namespace TagSpec

/-- The number that the words of a tag stand for, before it is scaled. A single that is not finite
stands for none, and neither do labelled bits. -/
def raw? (spec : TagSpec) (words : List UInt16) : Option Float :=
  match spec.type, words with
  | .integer, word :: _ => some word.toFloat
  | .real, high :: low :: _ =>
    let bits := singleBits high low
    if singleIsFinite bits then some (floatOfSingle bits) else none
  | _, _ => none

/-- Scaling takes the number that the words stand for out of the range of doubles. -/
def Escapes (spec : TagSpec) (words : List UInt16) : Prop :=
  ∃ raw ∈ spec.raw? words, ∃ scaling ∈ spec.scaling, ∃ x ∈ scaling.apply raw, x.isFinite = false

theorem within_raw {spec : TagSpec} {words : List UInt16} {raw : Float}
    (h : spec.raw? words = some raw) : Within 128 raw := by
  unfold raw? at h
  split at h
  · cases h
    exact (within_toFloat _).mono (by decide)
  · obtain ⟨finite, same⟩ := Option.ite_none_right_eq_some.mp h
    cases same
    exact within_floatOfSingle finite
  · cases h

theorem floatOfInt_toNat (word : UInt16) : Node.floatOfInt word.toNat = word.toFloat := by
  have same : word.toNat.toUInt64.toNat = word.toNat :=
    Nat.mod_eq_of_lt (word.toNat_lt.trans (by decide))
  have : Float.ofModel (.ofNat word.toNat.toUInt64.toNat) = .ofModel (.ofNat word.toNat) := by
    rw [same]
  rw [Node.floatOfInt, if_neg (by omega)]
  exact this

/-- The number that an alarm rule looks at. -/
def number? (spec : TagSpec) (words : List UInt16) : Option Float :=
  (spec.decode words).bind fun reading => reading.value.asFloat

/-- It is the one that the words stand for, after scaling if there is any and it is defined. -/
theorem number?_eq {spec : TagSpec} (registers : spec.span.count = spec.type.registers)
    (words : List UInt16) : spec.number? words =
      (spec.raw? words).map fun raw => (spec.scaling.bind (·.apply raw)).getD raw := by
  unfold number? decode raw? decodeValue
  rw [registers]
  cases spec.type with
  | integer =>
    cases words with
    | nil => rfl
    | cons word rest =>
      have enough : ¬(word :: rest).length < DataType.integer.registers.toNat := by
        simp [DataType.registers]
      simp only [enough, if_false, decodeInteger, Option.map_some]
      cases spec.scaling.bind (·.apply word.toFloat) with
      | none => exact congrArg some (floatOfInt_toNat word)
      | some scaled => rfl
  | real =>
    match words with
    | [] => rfl
    | [_] => rfl
    | high :: low :: rest =>
      have enough : ¬(high :: low :: rest).length < DataType.real.registers.toNat := by
        simp [DataType.registers]
      simp only [enough, if_false, decodeReal]
      cases singleIsFinite (singleBits high low) <;> rfl
  | digital =>
    cases words with
    | nil => rfl
    | cons word rest =>
      split <;> rfl

/-- The number is not finite just if scaling escapes. -/
theorem exists_number?_iff {spec : TagSpec} (registers : spec.span.count = spec.type.registers)
    (words : List UInt16) :
    (∃ x ∈ spec.number? words, x.isFinite = false) ↔ spec.Escapes words := by
  simp only [number?_eq registers, Escapes, Option.mem_def, Option.map_eq_some_iff]
  constructor
  · rintro ⟨_, ⟨raw, stood, rfl⟩, escaped⟩
    cases scaled : spec.scaling.bind (·.apply raw) with
    | none =>
      rw [scaled, Option.getD_none, (within_raw stood).isFinite] at escaped
      cases escaped
    | some x =>
      obtain ⟨scaling, own, applied⟩ := Option.bind_eq_some_iff.mp scaled
      rw [scaled] at escaped
      exact ⟨raw, stood, scaling, own, x, applied, escaped⟩
  · rintro ⟨raw, stood, scaling, own, x, applied, escaped⟩
    refine ⟨x, ⟨raw, stood, ?_⟩, escaped⟩
    rw [own]
    exact congrArg (Option.getD · raw) applied

theorem not_escapes {spec : TagSpec} (moderate : ∀ scaling ∈ spec.scaling, scaling.Moderate)
    (words : List UInt16) : ¬spec.Escapes words := by
  rintro ⟨raw, stood, scaling, own, x, applied, escaped⟩
  have := (moderate scaling own).isFinite_apply (within_raw stood) applied
  rw [escaped] at this
  cases this

theorem decode_of_not_finite {spec : TagSpec} (real : spec.type = .real) {high low : UInt16}
    (wild : singleIsFinite (singleBits high low) = false) (rest : List UInt16) :
    spec.decode (high :: low :: rest) = none := by
  simp [decode, decodeValue, decodeReal, real, wild]

end TagSpec

theorem Cycle.number_of_observed {plan : ScanPlan} {reads : List BlockRead} {device : String}
    {clocks : Clocks} {now : Instant} {rules : List AlarmRule} {seen : Observation}
    (h : seen ∈ observations device clocks now rules (numbers (decodeAll plan reads))) :
    ∃ tag ∈ plan.tags, seen.tag = some tag.key ∧ ∃ words x, seen.value = some x ∧
      tag.number? words = some x := by
  obtain ⟨rule, -, x, looked, rfl⟩ := by
    simpa only [observations, List.mem_filterMap, Option.map_eq_some_iff] using h
  have last := (get?_numbers_eq_some_iff.mp looked).mem
  obtain ⟨⟨tag, reading⟩, decoded, numeric⟩ := List.mem_filterMap.mp last
  obtain ⟨_, number, same⟩ := Option.map_eq_some_iff.mp numeric
  obtain ⟨key, rfl⟩ := Prod.mk.inj same
  obtain ⟨read, -, decoded⟩ := List.mem_flatMap.mp decoded
  cases delivered : read.outcome with
  | error fault => simp [delivered] at decoded
  | ok words =>
    rw [delivered] at decoded
    obtain ⟨known, decoded⟩ := (plan.mem_decode_iff read.block words tag reading).mp decoded
    obtain ⟨-, decoded⟩ := Option.ite_none_right_eq_some.mp decoded
    exact ⟨tag, known, congrArg some key.symm, _, _, rfl, Option.bind_eq_some_iff.mpr
      ⟨reading, decoded, number⟩⟩

namespace ScanPlan

/-- Numbers are finite but for what scaling makes of them. -/
structure FiniteUnscaled (plan : ScanPlan) : Prop where
  /-- The numbers that words stand for are finite. -/
  raw : ∀ tag ∈ plan.tags, ∀ words, ∀ raw ∈ tag.raw? words, raw.isFinite = true
  /-- A single that is not finite is no reading. -/
  single : ∀ tag ∈ plan.tags, tag.type = .real → ∀ high low rest,
    singleIsFinite (singleBits high low) = false → tag.decode (high :: low :: rest) = none
  /-- A reading is a number that is not finite just if scaling escapes. -/
  number : ∀ tag ∈ plan.tags, ∀ words,
    (∃ reading ∈ tag.decode words, ∃ x ∈ reading.value.asFloat, x.isFinite = false) ↔
      tag.Escapes words
  /-- Moderate scaling does not escape. -/
  moderate : ∀ tag ∈ plan.tags, (∀ scaling ∈ tag.scaling, scaling.Moderate) →
    ∀ words, ¬tag.Escapes words
  /-- A rule sees a number that is not finite only if its tag's scaling escapes. -/
  observed : ∀ reads device clocks now rules, ∀ seen ∈
    Cycle.observations device clocks now rules (Cycle.numbers (Cycle.decodeAll plan reads)),
    ∀ x ∈ seen.value, x.isFinite = false →
      ∃ tag ∈ plan.tags, seen.tag = some tag.key ∧ ∃ words, tag.Escapes words

theorem finiteUnscaled_of_flatten {tree : TagTree} {plan : ScanPlan}
    (flat : tree.flatten = .ok plan.tags) : plan.FiniteUnscaled := by
  have registers : ∀ tag ∈ plan.tags, tag.span.count = tag.type.registers :=
    fun tag htag => (TagTree.flatten_built flat tag htag).placed.2
  constructor
  case raw => exact fun tag _ words raw stood => (TagSpec.within_raw stood).isFinite
  case single =>
    intro tag _ real high low rest wild
    exact TagSpec.decode_of_not_finite real wild rest
  case number =>
    intro tag htag words
    rw [← TagSpec.exists_number?_iff (registers tag htag)]
    constructor
    · rintro ⟨reading, decoded, x, number, wild⟩
      exact ⟨x, Option.bind_eq_some_iff.mpr ⟨reading, decoded, number⟩, wild⟩
    · rintro ⟨x, number, wild⟩
      obtain ⟨reading, decoded, number⟩ := Option.bind_eq_some_iff.mp number
      exact ⟨reading, decoded, x, number, wild⟩
  case moderate => exact fun tag _ moderate words => TagSpec.not_escapes moderate words
  case observed =>
    intro reads device clocks now rules seen observed x shown wild
    obtain ⟨tag, htag, key, words, y, shown', number⟩ := Cycle.number_of_observed observed
    obtain rfl := Option.mem_unique shown shown'
    exact ⟨tag, htag, key, words,
      (TagSpec.exists_number?_iff (registers tag htag) words).mp ⟨x, number, wild⟩⟩

def surgingTree : TagTree :=
  .group [("level", .tag
      { address := 40001, type := .integer, rawZero := some 0, rawFull := some 1, engZero := some 0,
        engFull := some 1e308 }),
    ("flow", .tag
      { address := 40002, type := .real, rawZero := some 0, rawFull := some 1, engZero := some 0,
        engFull := some 1e308 })]

theorem finiteUnscaled_surgingTree :
    ∃ plan, build surgingTree {} = .ok plan ∧ plan.FiniteUnscaled := by
  refine ⟨_, rfl, ?_⟩
  exact finiteUnscaled_of_flatten (show surgingTree.flatten = _ from rfl)

/-- Twice its scale is a reading without end, whether an integer or a single says so, and a rule on
the tag sees that. -/
theorem surgingTree_decode_infinite :
    ∃ plan, build surgingTree {} = .ok plan ∧ plan.tags.map (·.type) = [.integer, .real] ∧
      ∀ tag ∈ plan.tags, ∃ reading x, (tag, reading) ∈ plan.decode ⟨1, 4⟩ [2, 0, 0x4000, 0] ∧
        reading.value = .float x ∧ x.isFinite = false ∧
        ∀ device clocks now, ∃ seen ∈ Cycle.observations device clocks now
          [{ id := "surge", name := "Surge", tag := tag.key, limits := { alarm := some 100 } }]
          (Cycle.numbers (plan.decode ⟨1, 4⟩ [2, 0, 0x4000, 0])), seen.value = some x := by
  refine ⟨_, rfl, rfl, List.forall_mem_cons.mpr ⟨?_, List.forall_mem_singleton.mpr ?_⟩⟩
  · refine ⟨_, _, .head _, rfl, by decide +kernel, fun device clocks now => ?_⟩
    exact ⟨_, .head _, rfl⟩
  · refine ⟨_, _, .tail _ (.head _), rfl, by decide +kernel, fun device clocks now => ?_⟩
    exact ⟨_, .head _, rfl⟩

end ScanPlan
end PlcMonitor
