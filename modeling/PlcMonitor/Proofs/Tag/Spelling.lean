import Mathlib
import PlcMonitor.Proofs.Tag.Guarded
import PlcMonitor.Proofs.Text.Trim

/-! How bit keys are spelled. Just the texts of a small grammar name bits, each the bit of the number
it writes. That the number is read digit by digit in a byte makes no difference. -/
namespace PlcMonitor
namespace BitKey

def digit (d : Fin 10) : Char := Char.ofNat ('0'.toNat + d)

/-- One digit or more, zeros in front among them, that write the number in base ten. -/
def Numeral (cs : List Char) (n : Nat) : Prop :=
  ∃ digits : List (Fin 10), digits ≠ [] ∧ digits.map digit = cs ∧
    Nat.ofDigits 10 (digits.reverse.map Fin.val) = n

/-- A number with or without a plus sign. -/
inductive Count : List Char → Nat → Prop
  | plain {cs : List Char} {n : Nat} : Numeral cs n → Count cs n
  | signed {cs : List Char} {n : Nat} : Numeral cs n → Count ('+' :: cs) n

/-- The word `bit`, with each letter small or capital. -/
def IsWord (cs : List Char) : Prop :=
  ∃ b ∈ ['b', 'B'], ∃ i ∈ ['i', 'I'], ∃ t ∈ ['t', 'T'], cs = [b, i, t]

/-- A number by itself, or the word and perhaps blanks before it. -/
inductive Spells : List Char → Nat → Prop
  | bare {cs : List Char} {n : Nat} : Count cs n → Spells cs n
  | worded {word blanks cs : List Char} {n : Nat} : IsWord word →
    (∀ c ∈ blanks, Text.isBlank c = true) → Count cs n → Spells (word ++ (blanks ++ cs)) n

@[simp] theorem toNat_digit : ∀ d, (digit d).toNat - '0'.toNat = d := by decide

theorem digit_ne_plus : ∀ d, digit d ≠ '+' := by decide

theorem isDigit_iff {c : Char} : c.isDigit = true ↔ ∃ d, digit d = c := by
  constructor
  · intro h
    obtain ⟨least, most⟩ := Char.isDigit_iff_toNat.mp h
    have fits : c.toNat - '0'.toNat < 10 := by
      have : '9'.toNat = '0'.toNat + 9 := rfl
      omega
    refine ⟨⟨c.toNat - '0'.toNat, fits⟩, ?_⟩
    rw [digit, Nat.add_sub_cancel' least, Char.ofNat_toNat]
  · rintro ⟨d, rfl⟩
    revert d
    decide

theorem all_isDigit_iff {cs : List Char} :
    cs.all Char.isDigit = true ↔ ∃ digits, List.map digit digits = cs := by
  simp only [List.all_eq_true, isDigit_iff]
  exact (Set.ext_iff.mp (Set.range_list_map digit) cs).symm

theorem digitsValue_map {digits : List (Fin 10)} (nonempty : digits ≠ []) :
    digitsValue (digits.map digit) = some (Nat.ofDigits 10 (digits.reverse.map Fin.val)) := by
  have shape : digits.map digit ≠ [] ∧ (digits.map digit).all Char.isDigit :=
    ⟨by simpa, all_isDigit_iff.mpr ⟨digits, rfl⟩⟩
  rw [digitsValue, if_pos shape, Nat.ofDigits_eq_foldr, List.map_reverse, List.foldr_reverse,
    List.foldl_map, List.foldl_map]
  simp only [toNat_digit, Nat.add_comm, Nat.cast_id]

theorem digitsValue_eq_some_iff {cs : List Char} {n : Nat} :
    digitsValue cs = some n ↔ Numeral cs n := by
  constructor
  · intro h
    have shape : cs ≠ [] ∧ cs.all Char.isDigit := by
      by_contra other
      rw [digitsValue, if_neg other] at h
      cases h
    obtain ⟨digits, rfl⟩ := all_isDigit_iff.mp shape.2
    have nonempty : digits ≠ [] := mt (congrArg (List.map digit)) shape.1
    rw [digitsValue_map nonempty] at h
    exact ⟨digits, nonempty, rfl, Option.some.inj h⟩
  · rintro ⟨digits, nonempty, rfl, rfl⟩
    exact digitsValue_map nonempty

theorem Numeral.not_plus {cs : List Char} {n : Nat} : ¬Numeral ('+' :: cs) n := by
  rintro ⟨digits, -, same, -⟩
  obtain ⟨d, rest, -, h, -⟩ := List.map_eq_cons_iff.mp same
  exact digit_ne_plus d h

theorem countValue_eq_some_iff {cs : List Char} {n : Nat} :
    countValue cs = some n ↔ Count cs n := by
  unfold countValue
  split
  · next cs =>
    rw [digitsValue_eq_some_iff]
    constructor
    · exact .signed
    · rintro (plain | signed)
      · exact absurd plain Numeral.not_plus
      · exact signed
  · next unsigned =>
    rw [digitsValue_eq_some_iff]
    constructor
    · exact .plain
    · rintro (plain | signed)
      · exact plain
      · exact absurd rfl (unsigned _)

theorem Count.mem {cs : List Char} {n : Nat} (h : Count cs n) :
    ∀ c ∈ cs, c = '+' ∨ ∃ d, digit d = c := by
  intro c hc
  cases h with
  | plain h =>
    obtain ⟨digits, -, rfl, -⟩ := h
    obtain ⟨d, -, rfl⟩ := List.mem_map.mp hc
    exact .inr ⟨d, rfl⟩
  | signed h =>
    obtain ⟨digits, -, rfl, -⟩ := h
    rcases List.mem_cons.mp hc with rfl | hc
    · exact .inl rfl
    · obtain ⟨d, -, rfl⟩ := List.mem_map.mp hc
      exact .inr ⟨d, rfl⟩

/-- A number has neither blanks nor long characters, nor the first letter of the word. -/
theorem Count.plainly {cs : List Char} {n : Nat} (h : Count cs n) :
    ∀ c ∈ cs, Text.isBlank c = false ∧ c.utf8Size = 1 ∧ c.toLower ≠ 'b' := by
  intro c hc
  rcases h.mem c hc with rfl | ⟨d, rfl⟩
  · decide
  · clear hc
    revert d
    decide

theorem mem_pair_of_toLower {c letter : Char} (h : c.toLower = letter) :
    c ∈ [letter, letter.toUpper] := by
  subst h
  by_cases capital : c.isUpper = true
  · rw [Char.toUpper_toLower_eq_toUpper,
      Char.toUpper_eq_of_not_isLower (Char.not_isLower_of_isUpper capital)]
    exact List.mem_cons_of_mem _ List.mem_cons_self
  · rw [Char.toLower_eq_of_not_isUpper capital]
    exact List.mem_cons_self

theorem isWord_iff {cs : List Char} : IsWord cs ↔ cs.map Char.toLower = ['b', 'i', 't'] := by
  constructor
  · have lower : ∀ b ∈ ['b', 'B'], ∀ i ∈ ['i', 'I'], ∀ t ∈ ['t', 'T'],
        [b, i, t].map Char.toLower = ['b', 'i', 't'] := by simp
    rintro ⟨b, hb, i, hi, t, ht, rfl⟩
    exact lower b hb i hi t ht
  · intro h
    obtain ⟨b, _, rfl, hb, h⟩ := List.map_eq_cons_iff.mp h
    obtain ⟨i, _, rfl, hi, h⟩ := List.map_eq_cons_iff.mp h
    obtain ⟨t, _, rfl, ht, h⟩ := List.map_eq_cons_iff.mp h
    obtain rfl := List.map_eq_nil_iff.mp h
    exact ⟨b, mem_pair_of_toLower hb, i, mem_pair_of_toLower hi, t, mem_pair_of_toLower ht, rfl⟩

theorem IsWord.byteLength {word : List Char} (h : IsWord word) : Text.byteLength word = 3 := by
  have short : ∀ b ∈ ['b', 'B'], ∀ i ∈ ['i', 'I'], ∀ t ∈ ['t', 'T'],
      Text.byteLength [b, i, t] = 3 := by simp [Text.byteLength, Char.utf8Size]
  obtain ⟨b, hb, i, hi, t, ht, rfl⟩ := h
  exact short b hb i hi t ht

theorem ofCount?_eq_bit_iff {count : Option Nat} {index : Fin 16} :
    ofCount? count = .bit index ↔ count = some index.val := by
  unfold ofCount?
  split
  · next n =>
    split
    · rw [bit.injEq, Option.some.injEq, Fin.ext_iff]
    · next large =>
      refine iff_of_false nofun ?_
      rintro ⟨⟩
      exact large index.isLt
  · exact iff_of_false nofun nofun

/-- All that can become of a key: it is not cut, or cut behind the word, or read as it is. -/
theorem parseTrimmed_cases (cs : List Char) :
    (Text.Straddles 3 cs ∧ parseTrimmed cs = .uncut) ∨
    (∃ word tail, IsWord word ∧ cs = word ++ tail ∧
      parseTrimmed cs = ofCount? (countValue (Text.trimmed tail))) ∨
    parseTrimmed cs = ofCount? (countValue cs) := by
  rw [parseTrimmed]
  split
  · next long =>
    cases cut : cutBytes 3 cs with
    | none => exact .inl ⟨(Text.cutBytes_eq_none_iff long).mp cut, rfl⟩
    | some parts =>
      obtain ⟨head, tail⟩ := parts
      dsimp only
      split
      · next word =>
        exact .inr (.inl ⟨head, tail, isWord_iff.mpr word, (Text.cutBytes_eq_some_iff.mp cut).1, rfl⟩)
      · exact .inr (.inr rfl)
  · exact .inr (.inr rfl)

theorem parseTrimmed_worded {word : List Char} (h : IsWord word) (tail : List Char) :
    parseTrimmed (word ++ tail) = ofCount? (countValue (Text.trimmed tail)) := by
  have long : 3 ≤ Text.byteLength (word ++ tail) := by
    rw [Text.byteLength_append, h.byteLength]
    exact Nat.le_add_right 3 _
  rw [parseTrimmed, if_pos long, Text.cutBytes_eq_some_iff.mpr ⟨rfl, h.byteLength⟩]
  exact if_pos (isWord_iff.mp h)

theorem parseTrimmed_count {cs : List Char} {n : Nat} (h : Count cs n) :
    parseTrimmed cs = ofCount? (some n) := by
  rw [← countValue_eq_some_iff.mpr h]
  rcases parseTrimmed_cases cs with ⟨straddled, -⟩ | ⟨word, tail, found, rfl, -⟩ | bare
  · obtain ⟨head, c, tail, rfl, before, behind⟩ := straddled
    have short := (h.plainly c (by simp)).2.1
    omega
  · obtain ⟨b, rest, rfl, lower, -⟩ := List.map_eq_cons_iff.mp (isWord_iff.mp found)
    exact absurd lower (h.plainly b (by simp)).2.2
  · exact bare

theorem parseTrimmed_eq_bit_iff {cs : List Char} (clean : Text.trimmed cs = cs) {index : Fin 16} :
    parseTrimmed cs = .bit index ↔ Spells cs index := by
  constructor
  · intro h
    rcases parseTrimmed_cases cs with ⟨-, uncut⟩ | ⟨word, tail, found, rfl, read⟩ | read
    · cases uncut.symm.trans h
    · obtain ⟨blanks, blank, split⟩ := Text.exists_blanks_append clean
      have count := ofCount?_eq_bit_iff.mp (read.symm.trans h)
      rw [split]
      exact .worded found blank (countValue_eq_some_iff.mp count)
    · have count := ofCount?_eq_bit_iff.mp (read.symm.trans h)
      exact .bare (countValue_eq_some_iff.mp count)
  · intro h
    cases h with
    | bare count => exact (parseTrimmed_count count).trans (ofCount?_eq_bit_iff.mpr rfl)
    | worded word blank count =>
      rw [parseTrimmed_worded word, ofCount?_eq_bit_iff,
        Text.trimmed_blanks_append blank fun c hc => (count.plainly c hc).1]
      exact countValue_eq_some_iff.mpr count

theorem exists_bit_iff {raw : String} :
    (∃ index, parse raw = .bit index) ↔ ∃ n ≤ maxBit, Spells (Text.trimmed raw.toList) n := by
  simp only [parse, parseTrimmed_eq_bit_iff (Text.trimmed_trimmed _)]
  constructor
  · rintro ⟨index, h⟩
    exact ⟨index, Nat.le_of_lt_succ index.isLt, h⟩
  · rintro ⟨n, small, h⟩
    exact ⟨⟨n, Nat.lt_succ_of_le small⟩, h⟩

theorem eq_invalid_iff {key : BitKey} :
    key = .invalid ↔ key ≠ .uncut ∧ ¬∃ index, key = .bit index := by
  cases key <;> simp

def byte? : BitKey → Option UInt8
  | .bit index => some index.val.toUInt8
  | .invalid | .uncut => none

end BitKey

namespace Guarded

def byte? (n : Nat) : Option UInt8 := if n < UInt8.size then some n.toUInt8 else none

/-- One more digit behind those that made `value`. The product is checked, and then the sum. -/
def pushDigit (value : UInt8) (c : Char) : Option UInt8 :=
  if c.isDigit then
    if UInt8.size ≤ 10 * value.toNat then none
    else if UInt8.size ≤ (10 * value).toNat + (c.toNat - '0'.toNat) then none
    else some (10 * value + (c.toNat - '0'.toNat).toUInt8)
  else none

def readByte? (cs : List Char) : Option UInt8 :=
  if cs = [] then none else cs.foldlM pushDigit 0

def countByte? : List Char → Option UInt8
  | '+' :: cs => readByte? cs
  | cs => readByte? cs

def bitByte? (cs : List Char) : Option UInt8 :=
  (countByte? cs).filter fun value => value.toNat ≤ maxBit

def bitNumber (raw : String) : Except Crash (Option UInt8) := do
  let cs := Text.trimmed raw.toList
  if 3 ≤ Text.byteLength cs then
    let (head, tail) ← cut 3 cs
    if head.map Char.toLower = ['b', 'i', 't'] then
      return bitByte? (Text.trimmed tail)
  return bitByte? cs

theorem toNat_toUInt8 {n : Nat} (fits : n < UInt8.size) : n.toUInt8.toNat = n :=
  Nat.mod_eq_of_lt fits

theorem bind_pushDigit (n : Nat) (c : Char) :
    (byte? n).bind (pushDigit · c) =
      if c.isDigit then byte? (10 * n + (c.toNat - '0'.toNat)) else none := by
  by_cases numeric : c.isDigit = true
  · simp only [pushDigit, numeric, if_true]
    generalize c.toNat - '0'.toNat = d
    have tens : 10 * n.toUInt8 = (10 * n).toUInt8 := (UInt8.ofNat_mul 10 n).symm
    have sum : (10 * n).toUInt8 + d.toUInt8 = (10 * n + d).toUInt8 := (UInt8.ofNat_add _ d).symm
    unfold byte?
    by_cases fits : n < UInt8.size
    · rw [if_pos fits, Option.bind_some, tens, sum, toNat_toUInt8 fits]
      by_cases product : 10 * n < UInt8.size
      · rw [if_neg (Nat.not_le.mpr product), toNat_toUInt8 product]
        by_cases total : 10 * n + d < UInt8.size
        · rw [if_neg (Nat.not_le.mpr total), if_pos total]
        · rw [if_pos (Nat.not_lt.mp total), if_neg total]
      · rw [if_pos (Nat.not_lt.mp product), if_neg (by omega)]
    -- a number that has left the byte never comes back into it
    · rw [if_neg fits, Option.bind_none, if_neg (by omega)]
  · simp [pushDigit, numeric]

theorem foldlM_pushDigit (cs : List Char) :
    cs.foldlM pushDigit 0 = if cs.all Char.isDigit then
      byte? (cs.foldl (fun value c => 10 * value + (c.toNat - '0'.toNat)) 0) else none := by
  -- the last digit is the one that is pushed last
  induction cs using List.reverseRecOn with
  | nil => rfl
  | append_singleton cs c ih =>
    rw [List.foldlM_append, ih, List.foldl_append, List.all_append]
    cases digits : cs.all Char.isDigit with
    | false => rfl
    | true =>
      have last := bind_pushDigit (cs.foldl (fun value c => 10 * value + (c.toNat - '0'.toNat)) 0) c
      simpa using last

theorem readByte?_eq (cs : List Char) : readByte? cs = (digitsValue cs).bind byte? := by
  unfold readByte? digitsValue
  rw [foldlM_pushDigit]
  by_cases empty : cs = []
  · simp [empty]
  · cases digits : cs.all Char.isDigit with
    | false => simp [empty]
    | true => simp [empty]

theorem countByte?_eq (cs : List Char) : countByte? cs = (countValue cs).bind byte? := by
  unfold countByte?
  split
  · next cs => exact readByte?_eq cs
  · next unsigned =>
    rw [countValue.eq_2 cs unsigned]
    exact readByte?_eq cs

theorem bitByte?_eq (cs : List Char) : bitByte? cs = (BitKey.ofCount? (countValue cs)).byte? := by
  rw [bitByte?, countByte?_eq]
  cases countValue cs with
  | none => rfl
  | some n =>
    simp only [Option.bind_some, byte?, BitKey.ofCount?]
    by_cases small : n < 16
    · have fits : n < UInt8.size := small.trans (by decide)
      rw [dif_pos small, if_pos fits]
      simp only [BitKey.byte?, Option.filter_some, toNat_toUInt8 fits]
      exact if_pos (decide_eq_true (Nat.le_of_lt_succ small))
    · rw [dif_neg small]
      by_cases fits : n < UInt8.size
      · rw [if_pos fits]
        simp only [BitKey.byte?, Option.filter_some, toNat_toUInt8 fits]
        exact if_neg (mt of_decide_eq_true fun h => small (Nat.lt_succ_of_le h))
      · rw [if_neg fits]
        rfl

theorem bitNumber_eq (raw : String) : bitNumber raw = (bitKey raw).map BitKey.byte? := by
  unfold bitNumber bitKey
  simp only [bitByte?_eq]
  split
  · cases cut 3 (Text.trimmed raw.toList) with
    | error crash => rfl
    | ok parts =>
      obtain ⟨head, tail⟩ := parts
      change (if _ then _ else _ : Except Crash _) = Except.map _ (if _ then _ else _)
      split <;> rfl
  · rfl

end Guarded

namespace BitKey

/-- A key names just the bit whose number is spelled between the blanks around it. If no number of a
bit is spelled there it names none, unless a character across its third byte stops the run. Reading
the number in a byte comes to the same. -/
theorem parse_exact (raw : String) :
    (∀ index, parse raw = .bit index ↔ Spells (Text.trimmed raw.toList) index) ∧
    (parse raw = .invalid ↔
      ¬Straddled raw ∧ ¬∃ n ≤ maxBit, Spells (Text.trimmed raw.toList) n) ∧
    (parse raw = .uncut ↔ Straddled raw) ∧
    Guarded.bitNumber raw = match parse raw with
      | .bit index => .ok (some index.val.toUInt8)
      | .invalid => .ok none
      | .uncut => .error .outOfRange := by
  refine ⟨fun index => parseTrimmed_eq_bit_iff (Text.trimmed_trimmed _), ?_, parse_eq_uncut_iff, ?_⟩
  · rw [eq_invalid_iff, exists_bit_iff, ne_eq, parse_eq_uncut_iff]
  · rw [Guarded.bitNumber_eq, Guarded.bitKey_eq]
    cases parse raw <;> rfl

example : parse "  biT  +007 " = .bit 7 ∧ parse "+bit 7" = .invalid := by decide

end BitKey
end PlcMonitor
