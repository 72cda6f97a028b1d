import Mathlib
import PlcMonitor.Decimal.Binary
import PlcMonitor.Proofs.Decimal.Order

/-! How large doubles can get. A bound that is a power of two outlasts rounding, so that of a sum,
a product or a quotient follows from those of its parts, and what stays within the range of doubles
is finite. -/
namespace PlcMonitor.Decimal

open Float.Model (UnpackedFloat totalExponent)
open Float.Model.UnpackedFloat

/-- At most `2 ^ k`, and with an exponent that a double of no more than that has. -/
def Fits (k : Int) (mantissa : Nat) (exponent : Int) : Prop :=
  ∃ n : Nat, 52 ≤ n ∧ exponent + n = k ∧ mantissa ≤ 2 ^ n

theorem Fits.of_le {k exponent : Int} {mantissa larger : Nat} (h : Fits k larger exponent)
    (le : mantissa ≤ larger) : Fits k mantissa exponent := by
  obtain ⟨n, wide, place, small⟩ := h
  exact ⟨n, wide, place, le.trans small⟩

def Bounded (k : Int) : UnpackedFloat → Prop
  | .notANumber | .infinity _ => False
  | .zero _ => True
  | .finite _ mantissa exponent _ => Fits k mantissa exponent

theorem Bounded.isFinite {k : Int} {x : UnpackedFloat} (h : Bounded k x) : x.isFinite = true := by
  cases x with
  | notANumber | infinity sign => exact h.elim
  | zero sign | finite sign mantissa exponent => rfl

theorem Bounded.mono {j k : Int} (hjk : j ≤ k) {x : UnpackedFloat} (h : Bounded j x) :
    Bounded k x := by
  cases x with
  | notANumber | infinity sign => exact h
  | zero sign => trivial
  | finite sign mantissa exponent =>
    obtain ⟨n, wide, rfl, small⟩ := h
    refine ⟨n + (k - (exponent + n)).toNat, by omega, by omega, small.trans ?_⟩
    exact Nat.pow_le_pow_right (by decide) (by omega)

theorem Bounded.neg {k : Int} {x : UnpackedFloat} (h : Bounded k x) : Bounded k x.neg := by
  cases x <;> exact h

section Rounding

/-- What is cut off a mantissa counts as one more of its last digit. -/
def ceiling (x : ExtendedMantissa) : Nat := x.mantissa + (x.roundBit || x.stickyBit).toNat

theorem roundedMantissa_le (x : ExtendedMantissa) : x.roundedMantissa ≤ ceiling x := by
  obtain ⟨mantissa, _ | _, _ | _⟩ := x
  all_goals
    simp only [ExtendedMantissa.roundedMantissa, ExtendedMantissa.accuracy,
      Accuracy.roundToNearestEven, ceiling, Bool.or_false, Bool.or_true, Bool.toNat_true,
      Bool.toNat_false]
    omega

theorem ceiling_shiftRightOne (x : ExtendedMantissa) {n : Nat} (h : ceiling x ≤ 2 * n) :
    ceiling x.shiftRightOne ≤ n := by
  obtain ⟨mantissa, roundBit, stickyBit⟩ := x
  simp only [ceiling, ExtendedMantissa.shiftRightOne] at h ⊢
  rcases Nat.mod_two_eq_zero_or_one mantissa with even | odd
  · cases roundBit <;> cases stickyBit <;>
      simp only [even, bne_self_eq_false, Bool.or_self, Bool.or_false, Bool.or_true,
        Bool.toNat_false, Bool.toNat_true] at h ⊢ <;> omega
  · have := (roundBit || stickyBit).toNat_lt
    simp [odd]
    omega

theorem ceiling_shiftRight (x : ExtendedMantissa) (shift : Nat) {n : Nat}
    (h : ceiling x ≤ 2 ^ (n + shift)) : ceiling (x >>> shift) ≤ 2 ^ n := by
  induction shift generalizing n with
  | zero => exact h
  | succ shift ih =>
    change ceiling (x >>> shift).shiftRightOne ≤ _
    apply ceiling_shiftRightOne
    rw [← Nat.pow_succ']
    exact ih (by rwa [Nat.succ_add])

theorem log2_le {mantissa n : Nat} (h : mantissa ≤ 2 ^ n) : mantissa.log2 ≤ n := by
  by_cases zero : mantissa = 0
  · simp [zero]
  · have := Nat.two_pow_pos n
    apply Nat.le_of_lt_succ
    rw [Nat.log2_lt zero, Nat.pow_succ]
    omega

theorem shiftLeft_le {mantissa n shift : Nat} (h : mantissa ≤ 2 ^ n) :
    mantissa <<< shift ≤ 2 ^ (n + shift) := by
  rw [Nat.shiftLeft_eq, Nat.pow_add]
  exact Nat.mul_le_mul_right _ h

variable {k : Int}

/-- The exponents that a double of at most `2 ^ k` has do not pass the one that `2 ^ k` has. -/
theorem targetExponent_le (normal : -1022 ≤ k) {total : Int} (h : total ≤ k + 1) :
    Float.Model.Format.binary64.targetExponent total + 52 ≤ k := by
  simp only [Float.Model.Format.targetExponent, Float.Model.Format.mantissaBits,
    Float.Model.Format.minExponent]
  omega

theorem totalExponent_le {mantissa n : Nat} (small : mantissa ≤ 2 ^ n) (exponent : Int) :
    totalExponent mantissa exponent ≤ exponent + n + 1 := by
  have := log2_le small
  unfold totalExponent
  omega

theorem le_ceiling (mantissa : Nat) (accuracy : Accuracy) :
    mantissa ≤ ceiling (.ofMantissaAndAccuracy mantissa accuracy) := by
  cases accuracy with
  | exact => exact Nat.le_refl _
  | inexact order => cases order <;> exact Nat.le_add_right _ _

theorem ceiling_le (mantissa : Nat) (accuracy : Accuracy) :
    ceiling (.ofMantissaAndAccuracy mantissa accuracy) ≤ mantissa + 1 := by
  cases accuracy with
  | exact => exact Nat.le_succ mantissa
  | inexact order => cases order <;> exact Nat.le_refl _

theorem Fits.shift (normal : -1022 ≤ k) {mantissa : Nat} {exponent : Int} {accuracy : Accuracy}
    (h : Fits k (ceiling (.ofMantissaAndAccuracy mantissa accuracy)) exponent) :
    Fits k (ceiling (shiftToTargetExponent .binary64 mantissa exponent accuracy).1)
      (shiftToTargetExponent .binary64 mantissa exponent accuracy).2 := by
  obtain ⟨n, wide, rfl, small⟩ := h
  have total := totalExponent_le ((le_ceiling mantissa accuracy).trans small) exponent
  have target := targetExponent_le normal total
  simp only [shiftToTargetExponent, shiftToExponent]
  generalize Float.Model.Format.binary64.targetExponent (totalExponent mantissa exponent) = goal
    at target ⊢
  refine ⟨n - (goal - exponent).toNat, by omega, by omega, ceiling_shiftRight _ _ ?_⟩
  rwa [Nat.sub_add_cancel (by omega)]

theorem bounded_roundWithAccuracy (normal : -1022 ≤ k) (sign : Sign) {mantissa : Nat}
    {exponent : Int} {accuracy : Accuracy}
    (h : Fits k (ceiling (.ofMantissaAndAccuracy mantissa accuracy)) exponent) :
    Bounded k (roundWithAccuracy .binary64 sign mantissa exponent accuracy) := by
  have first := h.shift normal
  simp only [roundWithAccuracy]
  generalize shiftToTargetExponent .binary64 mantissa exponent accuracy = shifted at first ⊢
  obtain ⟨x, exponent⟩ := shifted
  have rounded : Fits k (ceiling (.ofMantissaAndAccuracy x.roundedMantissa .exact)) exponent :=
    first.of_le (roundedMantissa_le x)
  have last := rounded.shift normal
  generalize shiftToTargetExponent .binary64 x.roundedMantissa exponent .exact = shifted at last ⊢
  obtain ⟨x, exponent⟩ := shifted
  split
  · trivial
  · exact last.of_le (Nat.le_add_right _ _)

theorem bounded_round (normal : -1022 ≤ k) (sign : Sign) {mantissa n : Nat} {exponent : Int}
    (place : exponent + n = k) (small : mantissa ≤ 2 ^ n) :
    Bounded k (UnpackedFloat.round .binary64 sign mantissa exponent) := by
  subst place
  have target := targetExponent_le normal (totalExponent_le small exponent)
  simp only [UnpackedFloat.round, decreaseExponent]
  generalize Float.Model.Format.binary64.targetExponent (totalExponent mantissa exponent) = goal
    at target ⊢
  apply bounded_roundWithAccuracy normal
  exact ⟨n + (exponent - goal).toNat, by omega, by omega, shiftLeft_le small⟩

theorem bounded_normalize (normal : -1022 ≤ k) (zeroSign : Sign) {mantissa exponent : Int}
    {n : Nat} (place : exponent + n = k) (small : mantissa.natAbs ≤ 2 ^ n) :
    Bounded k (UnpackedFloat.normalize .binary64 mantissa exponent zeroSign) := by
  unfold UnpackedFloat.normalize
  split
  · exact bounded_round normal _ place (by omega)
  · trivial
  · exact bounded_round normal _ place (by omega)

end Rounding

section Operations
variable {j k : Int} {x y : UnpackedFloat}

theorem natAbs_apply (sign : Sign) (n : Int) : (sign.apply n).natAbs = n.natAbs := by
  cases sign
  · exact Int.natAbs_neg n
  · rfl

theorem Bounded.add (normal : -1023 ≤ k) (hx : Bounded k x) (hy : Bounded k y) :
    Bounded (k + 1) (x.add .binary64 y) := by
  have one : k ≤ k + 1 := by omega
  match x, y with
  | .zero s, .zero t =>
    simp only [UnpackedFloat.add]
    split <;> trivial
  | .zero _, .finite .. => exact hy.mono one
  | .finite .., .zero _ => exact hx.mono one
  | .finite s m e _, .finite t m' e' _ =>
    obtain ⟨n, wide, place, small⟩ := hx
    obtain ⟨n', wide', place', small'⟩ := hy
    simp only [UnpackedFloat.add, decreaseExponent]
    have least : min e e' + ((k - min e e').toNat + 1 : Nat) = k + 1 := by omega
    apply bounded_normalize (by omega) _ least
    have first : m <<< (e - min e e').toNat ≤ 2 ^ (n + (e - min e e').toNat) := shiftLeft_le small
    have second : m' <<< (e' - min e e').toNat ≤ 2 ^ (n' + (e' - min e e').toNat) :=
      shiftLeft_le small'
    rw [show n + (e - min e e').toNat = (k - min e e').toNat by omega] at first
    rw [show n' + (e' - min e e').toNat = (k - min e e').toNat by omega] at second
    refine (Int.natAbs_add_le _ _).trans ?_
    rw [natAbs_apply, natAbs_apply, Int.natAbs_natCast, Int.natAbs_natCast, Nat.pow_succ]
    omega

theorem apply_neg (sign : Sign) (n : Int) : (-sign).apply n = -sign.apply n := by
  cases sign
  · exact (Int.neg_neg n).symm
  · rfl

theorem sub_eq_add (x y : UnpackedFloat) : x.sub .binary64 y = x.add .binary64 y.neg := by
  rcases x with s | _ | s | s <;> rcases y with t | _ | t | t <;> try rfl
  simp only [UnpackedFloat.sub, UnpackedFloat.add, UnpackedFloat.neg, apply_neg]
  rfl

theorem Bounded.sub (normal : -1023 ≤ k) (hx : Bounded k x) (hy : Bounded k y) :
    Bounded (k + 1) (x.sub .binary64 y) := by
  rw [sub_eq_add]
  exact hx.add normal hy.neg

theorem Bounded.mul (normal : -1022 ≤ j + k) (hx : Bounded j x) (hy : Bounded k y) :
    Bounded (j + k) (x.mul .binary64 y) := by
  match x, y with
  | .zero s, .zero t | .zero s, .finite .. | .finite .., .zero t => trivial
  | .finite s m e _, .finite t m' e' _ =>
    obtain ⟨n, wide, place, small⟩ := hx
    obtain ⟨n', wide', place', small'⟩ := hy
    apply bounded_roundWithAccuracy normal
    refine ⟨n + n', by omega, by omega, ?_⟩
    change m * m' ≤ _
    rw [Nat.pow_add]
    exact Nat.mul_le_mul small small'

def AtLeast (k : Int) : UnpackedFloat → Prop
  | .finite _ mantissa exponent _ => k ≤ mantissa.log2 + exponent
  | _ => False

theorem ceiling_quotient_le {a b n : Nat} (h : a ≤ b * n) :
    ceiling (.ofMantissaAndAccuracy (a / b) (accuracyOfFraction (a % b) b)) ≤ n := by
  by_cases whole : a % b = 0
  · rw [accuracyOfFraction, if_pos whole]
    exact Nat.div_le_of_le_mul h
  · apply (ceiling_le _ _).trans
    have cut : b * (a / b) < b * n := by
      have := Nat.div_add_mod a b
      omega
    exact Nat.lt_of_mul_lt_mul_left cut

theorem Bounded.div (normal : -1022 ≤ j - k) (hx : Bounded j x) (hy : AtLeast k y) :
    Bounded (j - k) (x.div .binary64 y) := by
  match x, y with
  | .zero s, .finite .. => trivial
  | .finite s m e _, .finite t m' e' pos =>
    obtain ⟨n, wide, place, small⟩ := hx
    change k ≤ _ at hy
    have total : totalExponent m e - totalExponent m' e' ≤ j - k + 1 := by
      have := totalExponent_le small e
      simp only [totalExponent] at this ⊢
      omega
    have target := targetExponent_le normal total
    simp only [UnpackedFloat.div, divCore]
    generalize Float.Model.Format.binary64.targetExponent _ = goal at target ⊢
    generalize least : min (e - e') goal = exponent
    apply bounded_roundWithAccuracy normal
    refine ⟨(j - k - exponent).toNat, by omega, by omega, ceiling_quotient_le ?_⟩
    calc m <<< (e - e' - exponent).toNat
      _ ≤ 2 ^ (n + (e - e' - exponent).toNat) := shiftLeft_le small
      _ ≤ 2 ^ (m'.log2 + (j - k - exponent).toNat) :=
        Nat.pow_le_pow_right (by decide) (by omega)
      _ = 2 ^ m'.log2 * 2 ^ (j - k - exponent).toNat := Nat.pow_add ..
      _ ≤ m' * 2 ^ (j - k - exponent).toNat :=
        Nat.mul_le_mul_right _ (Nat.log2_self_le pos.ne')

end Operations

section Packing
variable {bits : BitVec Float.Model.Format.binary64.numBits}

theorem toNat_one_append (fraction : BitVec 52) :
    (1#1 ++ fraction).toNat = 2 ^ 52 + fraction.toNat := by
  have := Nat.two_pow_add_eq_or_of_lt fraction.isLt 1
  rw [Nat.mul_one] at this
  rw [this, BitVec.toNat_append]
  rfl

theorem bounded_unpack {field : Nat} (some : 1 ≤ field) (few : field < 2047)
    (h : (unpackExponent bits).toNat ≤ field) :
    Bounded (field - 1022) (unpack .binary64 bits) := by
  have finite : unpackExponent bits ≠ -1#11 := by
    intro all
    rw [all] at h
    exact absurd h (by simp; omega)
  have bias : Float.Model.Format.binary64.exponentBias = 1023 := rfl
  have small : (unpackMantissa bits).toNat < 2 ^ 52 := (unpackMantissa bits).isLt
  simp only [unpack, finite, if_false, bias]
  split
  · next none =>
    split
    · trivial
    · refine ⟨field + 52, by omega, ?_, ?_⟩
      · simp [none]
        omega
      · exact small.le.trans (Nat.pow_le_pow_right (by decide) (Nat.le_add_left 52 _))
  · refine ⟨53 + (field - (unpackExponent bits).toNat), by omega, by omega, ?_⟩
    refine Nat.le_trans ?_ (Nat.pow_le_pow_right (by decide) (Nat.le_add_right 53 _))
    rw [toNat_one_append]
    omega

theorem bounded_unpack_packComponents {k : Int} {field n : Nat} (some : 0 < field)
    (few : field < 2047) (wide : 52 ≤ n) (place : (field : Int) - 1075 + n = k) (sign : Sign)
    {fraction : BitVec 52} (small : 2 ^ 52 + fraction.toNat ≤ 2 ^ n) :
    Bounded k (unpack .binary64 (packComponents .binary64 sign (.ofNat 11 field) fraction)) := by
  have exact : (BitVec.ofNat 11 field).toNat = field := Nat.mod_eq_of_lt (by omega)
  have notNone : BitVec.ofNat 11 field ≠ 0#11 := by
    intro none
    exact some.ne' (exact.symm.trans (congrArg BitVec.toNat none))
  have notAll : BitVec.ofNat 11 field ≠ -1#11 := by
    intro all
    exact few.ne (exact.symm.trans (congrArg BitVec.toNat all))
  have bias : Float.Model.Format.binary64.exponentBias = 1023 := rfl
  simp only [unpack, unpackExponent_packComponents, unpackMantissa_packComponents, notNone, notAll,
    if_false, exact, bias]
  refine ⟨n, wide, by omega, ?_⟩
  rwa [toNat_one_append]

/-- What is in range stays as large as it is when it is packed. -/
theorem Bounded.pack {k : Int} (least : -1021 ≤ k) (most : k ≤ 1023) {x : UnpackedFloat}
    (h : Bounded k x) : Bounded k (unpack .binary64 (x.pack .binary64)) := by
  have tiny {sign : Sign} {fraction : BitVec 52} :
      Bounded k (unpack .binary64 (packComponents .binary64 sign 0#11 fraction)) := by
    apply Bounded.mono least
    exact bounded_unpack (Nat.le_refl 1) (by decide) (by simp)
  match x with
  | .zero sign => exact tiny
  | .finite sign mantissa exponent pos =>
    obtain ⟨n, wide, place, small⟩ := h
    change Bounded k (unpack .binary64 (if 2 ^ 11 ≤ (exponent + 1023 + 52).toNat + 1 then _ else
      if mantissa.log2 + 1 = 53 then packComponents .binary64 sign
        (.ofNat 11 (exponent + 1023 + 52).toNat) (.ofNat 52 mantissa) else _))
    generalize biased : (exponent + 1023 + 52).toNat = field
    rw [if_neg (by omega)]
    split
    · next full =>
      by_cases none : field = 0
      · rw [none]
        exact tiny
      have leading := Nat.log2_self_le pos.ne'
      rw [show mantissa.log2 = 52 by omega] at leading
      apply bounded_unpack_packComponents (by omega) (by omega) wide (by omega)
      rw [BitVec.toNat_ofNat]
      omega
    · exact tiny

end Packing

section Doubles
variable {j k : Int} {x y : Float}

def Within (k : Int) (x : Float) : Prop := Bounded k x.toModel.unpack

theorem Within.isFinite (h : Within k x) : x.isFinite = true := Bounded.isFinite h

theorem Within.mono (hjk : j ≤ k) (h : Within j x) : Within k x := Bounded.mono hjk h

theorem Within.add (least : -1022 ≤ k) (most : k ≤ 1022) (hx : Within k x) (hy : Within k y) :
    Within (k + 1) (x + y) :=
  (Bounded.add (by omega) hx hy).pack (by omega) (by omega)

theorem Within.sub (least : -1022 ≤ k) (most : k ≤ 1022) (hx : Within k x) (hy : Within k y) :
    Within (k + 1) (x - y) :=
  (Bounded.sub (by omega) hx hy).pack (by omega) (by omega)

theorem Within.mul (least : -1021 ≤ j + k) (most : j + k ≤ 1023) (hx : Within j x)
    (hy : Within k y) : Within (j + k) (x * y) :=
  (Bounded.mul (by omega) hx hy).pack least most

theorem Within.div (least : -1021 ≤ j - k) (most : j - k ≤ 1023) (hx : Within j x)
    (hy : AtLeast k y.toModel.unpack) : Within (j - k) (x / y) :=
  (Bounded.div (by omega) hx hy).pack least most

theorem within_ofNat {n k : Nat} (most : k ≤ 1023) (h : n ≤ 2 ^ k) :
    Bounded k (unpack .binary64
      ((UnpackedFloat.normalize .binary64 n 0 .positive).pack .binary64)) := by
  apply Bounded.pack (by omega) (by omega)
  exact bounded_normalize (by omega) _ (Int.zero_add _) h

theorem within_toFloat (word : UInt16) : Within 16 word.toFloat :=
  within_ofNat (by decide) word.toNat_lt.le

theorem within_ofBits {bits : UInt64} {field : Nat} (some : 1 ≤ field) (few : field ≤ 2045)
    (h : double.biased bits.toNat ≤ field) : Within (field - 1022) (.ofBits bits) := by
  apply Bounded.pack (by omega) (by omega)
  apply bounded_unpack some (by omega)
  have same : (@unpackExponent .binary64 bits.toBitVec).toNat = double.biased bits.toNat := by
    simp [unpackExponent, Format.biased, double, Nat.shiftRight_eq_div_pow]
  rwa [same]

end Doubles

section Comparing
variable {exponent : Int}

theorem mantissa_le {bits : BitVec Float.Model.Format.binary64.numBits} {sign : Sign}
    {mantissa : Nat} {pos : 0 < mantissa}
    (h : unpack .binary64 bits = .finite sign mantissa exponent pos) : mantissa ≤ 2 ^ 53 := by
  have small : (unpackMantissa bits).toNat < 2 ^ 52 := (unpackMantissa bits).isLt
  unfold unpack at h
  dsimp only at h
  split at h
  · split at h <;> cases h
  · split at h
    · split at h
      · cases h
      · cases h
        omega
    · cases h
      rw [toNat_one_append]
      omega

theorem within_of_between {x low high : Float} {m m' : Int}
    (hlow : place? low.toModel.unpack = some (toLex (-1, toLex (-exponent, m))))
    (hhigh : place? high.toModel.unpack = some (toLex (1, toLex (exponent, m'))))
    (above : low ≤ x) (below : x ≤ high) : Within (exponent + 53) x := by
  obtain ⟨i, hi, j, hj, above⟩ := (le_iff_place _ _).mp (of_decide_eq_true above)
  obtain ⟨j', hj', k, hk, below⟩ := (le_iff_place _ _).mp (of_decide_eq_true below)
  obtain rfl := Option.mem_unique hj hj'
  obtain rfl := Option.some_inj.mp (hi.symm.trans hlow)
  obtain rfl := Option.some_inj.mp (hk.symm.trans hhigh)
  unfold Within
  generalize unpacked : x.toModel.unpack = u at hj ⊢
  rcases u with (_ | _) | _ | (_ | _) | ⟨_ | _, mantissa, exponent', _⟩
  all_goals cases hj
  all_goals simp only [Prod.Lex.toLex_le_toLex] at above below
  · omega
  · omega
  · trivial
  · trivial
  · have small := mantissa_le unpacked
    exact Bounded.mono (by omega) ⟨53, by decide, rfl, small⟩
  · have small := mantissa_le unpacked
    exact Bounded.mono (by omega) ⟨53, by decide, rfl, small⟩

/-- What is no nearer to zero than a number or its negative is no smaller than they are. -/
theorem atLeast_of_beyond {x low high : Float} {k m m' : Int}
    (hlow : place? low.toModel.unpack = some (toLex (-1, toLex (-exponent, m))))
    (hhigh : place? high.toModel.unpack = some (toLex (1, toLex (exponent, m'))))
    (hx : Within k x) (beyond : x ≤ low ∨ high ≤ x) : AtLeast exponent x.toModel.unpack := by
  unfold Within at hx
  rcases beyond with below | above
  · obtain ⟨i, hi, j, hj, below⟩ := (le_iff_place _ _).mp (of_decide_eq_true below)
    obtain rfl := Option.some_inj.mp (hj.symm.trans hlow)
    generalize x.toModel.unpack = u at hx hi ⊢
    rcases u with _ | _ | _ | ⟨_ | _, mantissa, exponent', _⟩
    all_goals try exact hx.elim
    all_goals cases hi
    all_goals simp only [Prod.Lex.toLex_le_toLex] at below
    · omega
    · unfold AtLeast
      omega
    · omega
  · obtain ⟨i, hi, j, hj, above⟩ := (le_iff_place _ _).mp (of_decide_eq_true above)
    obtain rfl := Option.some_inj.mp (hi.symm.trans hhigh)
    generalize x.toModel.unpack = u at hx hj ⊢
    rcases u with _ | _ | _ | ⟨_ | _, mantissa, exponent', _⟩
    all_goals try exact hx.elim
    all_goals cases hj
    all_goals simp only [Prod.Lex.toLex_le_toLex] at above
    · omega
    · omega
    · unfold AtLeast
      omega

end Comparing
end PlcMonitor.Decimal
