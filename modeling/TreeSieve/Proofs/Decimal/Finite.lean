import Mathlib
import TreeSieve.Json.Reader

/-!
# Numbers are read as finite floats

No spelling of a number is read as an infinite float or as no number at all.  The
argument follows exponents: a significand of 64 bits has a small one, every
division by a power of ten raises it by little, and a product that is too large is
noticed.  The bounds are far from tight, so that rounding hardly matters.
-/

namespace TreeSieve.Decimal

open Float.Model (UnpackedFloat Format totalExponent)
open Float.Model.UnpackedFloat

/-! ## Rounding -/

theorem log2_le_log2 {left right : Nat} (le : left ≤ right) : left.log2 ≤ right.log2 := by
  by_cases zero : left = 0
  · simp [zero]
  · exact (Nat.le_log2 (by omega)).mpr (Nat.le_trans (Nat.log2_self_le zero) le)

/-- Every place that a mantissa is shifted takes one from its logarithm, until
nothing is left. -/
theorem log2_shiftRight (extended : ExtendedMantissa) (count : Nat) :
    (extended >>> count).mantissa = 0 ∨
      (extended >>> count).mantissa.log2 + count = extended.mantissa.log2 := by
  induction count with
  | zero => exact .inr rfl
  | succ count ih =>
      change (extended >>> count).mantissa / 2 = 0 ∨
        ((extended >>> count).mantissa / 2).log2 + (count + 1) = extended.mantissa.log2
      have halved := Nat.log2_def (extended >>> count).mantissa
      split at halved <;> omega

theorem roundedMantissa_le (extended : ExtendedMantissa) :
    extended.roundedMantissa ≤ extended.mantissa + 1 := by
  obtain ⟨mantissa, roundBit, stickyBit⟩ := extended
  cases roundBit <;> cases stickyBit <;>
    simp [ExtendedMantissa.roundedMantissa, ExtendedMantissa.accuracy,
      Accuracy.roundToNearestEven]
  omega

theorem snd_shiftToTargetExponent (mantissa : Nat) (exponent : Int) (accuracy : Accuracy) :
    (shiftToTargetExponent Format.binary64 mantissa exponent accuracy).2 =
      max exponent (max (totalExponent mantissa exponent - 53) (-1074)) := by
  change exponent + (max (totalExponent mantissa exponent - 53) (-1074) - exponent).toNat = _
  omega

theorem log2_succ_le (value : Nat) : (value + 1).log2 ≤ value.log2 + 1 := by
  by_cases zero : value = 0
  · simp [zero, Nat.log2_def]
  · rw [← Nat.log2_two_mul zero]
    exact log2_le_log2 (by omega)

theorem mantissa_ofMantissaAndAccuracy (mantissa : Nat) (accuracy : Accuracy) :
    (ExtendedMantissa.ofMantissaAndAccuracy mantissa accuracy).mantissa = mantissa := by
  cases accuracy with
  | exact => rfl
  | inexact order => cases order <;> rfl

/-- Rounding moves the most significant digit by one place at most, unless nothing
but the last place is left. -/
theorem totalExponent_rounded (mantissa : Nat) (exponent : Int) (accuracy : Accuracy) :
    let shifted := shiftToTargetExponent Format.binary64 mantissa exponent accuracy
    totalExponent shifted.1.roundedMantissa shifted.2 ≤
      max (totalExponent mantissa exponent + 1) (shifted.2 + 1) := by
  intro shifted
  let count := (Format.binary64.targetExponent (totalExponent mantissa exponent) - exponent).toNat
  have initial := mantissa_ofMantissaAndAccuracy mantissa accuracy
  have raised : shifted.2 = exponent + count := rfl
  have rounded := log2_le_log2 (roundedMantissa_le shifted.1)
  have kept : shifted.1.mantissa = 0 ∨ shifted.1.mantissa.log2 + count = mantissa.log2 :=
    initial ▸ log2_shiftRight (ExtendedMantissa.ofMantissaAndAccuracy mantissa accuracy) count
  have carried := log2_succ_le shifted.1.mantissa
  rw [totalExponent, totalExponent]
  rcases kept with gone | kept
  · rw [gone] at rounded
    have one : (0 + 1).log2 = 0 := rfl
    omega
  · omega

/-! ## Exponents of floats -/

/-- Whether a float is zero or has at most this exponent. -/
def UpTo (bound : Int) : UnpackedFloat → Prop
  | .zero _ => True
  | .finite _ _ exponent _ => exponent ≤ bound
  | _ => False

theorem upTo_roundWithAccuracy {mantissa : Nat} {exponent bound : Int}
    (small : totalExponent mantissa exponent ≤ bound + 1) (least : -1074 ≤ bound) (sign : Sign)
    (accuracy : Accuracy) :
    UpTo bound (roundWithAccuracy Format.binary64 sign mantissa exponent accuracy) := by
  have first := snd_shiftToTargetExponent mantissa exponent accuracy
  have second := snd_shiftToTargetExponent
    (shiftToTargetExponent Format.binary64 mantissa exponent accuracy).1.roundedMantissa
    (shiftToTargetExponent Format.binary64 mantissa exponent accuracy).2 .exact
  have rounded := totalExponent_rounded mantissa exponent accuracy
  have inside : exponent ≤ bound := by
    rw [totalExponent] at small
    omega
  unfold roundWithAccuracy
  dsimp only
  split
  · trivial
  · rw [UpTo, second]
    omega

/-- What the exponent field of some bits says about the float they hold. -/
theorem upTo_unpack {bits : BitVec Format.binary64.numBits} {field : BitVec 11} {bound : Int}
    (isField : unpackExponent bits = field) (finite : field.toNat < 2047)
    (small : field.toNat ≤ bound + 1075) (least : -1074 ≤ bound) :
    UpTo bound (unpack Format.binary64 bits) := by
  have bias : ((Format.binary64.exponentBias : Nat) : Int) = 1023 := rfl
  have notOnes : field ≠ -1#_ := by
    rintro rfl
    exact absurd finite (by decide)
  unfold unpack
  dsimp only
  rw [isField, if_neg notOnes]
  split
  · rename_i zero
    have zeroNat : field.toNat = 0 := by simp [zero]
    split
    · trivial
    · rw [UpTo, bias]
      omega
  · rw [UpTo, bias]
    omega

theorem toNat_exponentField {exponent : Int} (fits : (exponent + 1023 + 52).toNat < 2047) :
    (BitVec.ofNat 11 (exponent + 1023 + 52).toNat).toNat = (exponent + 1023 + 52).toNat := by
  rw [BitVec.toNat_ofNat, Nat.mod_eq_of_lt (Nat.lt_trans fits (by decide))]

/-- A float comes back from its bits with at most the exponent it had. -/
theorem upTo_unpack_pack {value : UnpackedFloat} {bound : Int} (small : UpTo bound value)
    (least : -1074 ≤ bound) (greatest : bound ≤ 971) :
    UpTo bound (Float.Model.pack value).unpack := by
  change UpTo bound (unpack Format.binary64 (pack Format.binary64 value))
  cases value with
  | infinity _ => contradiction
  | notANumber => contradiction
  | zero sign =>
      exact upTo_unpack unpackExponent_packComponents (by decide) (by simp; omega) least
  | finite sign mantissa exponent positive =>
      rw [UpTo] at small
      have fits : (exponent + 1023 + 52).toNat < 2047 := by omega
      have field := toNat_exponentField fits
      unfold pack
      dsimp only
      split
      · rename_i overflows
        exact absurd overflows (Nat.not_le.mpr (Nat.succ_lt_succ fits))
      · split
        · apply upTo_unpack unpackExponent_packComponents _ _ least
          · change (BitVec.ofNat 11 (exponent + 1023 + 52).toNat).toNat < 2047
            rw [field]
            exact fits
          · change ((BitVec.ofNat 11 (exponent + 1023 + 52).toNat).toNat : Int) ≤ bound + 1075
            rw [field]
            omega
        · exact upTo_unpack unpackExponent_packComponents (by decide) (by simp; omega) least

/-- A finite float has a mantissa of at most 53 digits and an exponent of at most
971. -/
theorem bounds_of_unpack {model : Float.Model} {sign : Sign} {mantissa : Nat} {exponent : Int}
    {positive : 0 < mantissa} (unpacks : model.unpack = .finite sign mantissa exponent positive) :
    mantissa.log2 ≤ 52 ∧ exponent ≤ 971 := by
  have log2_lt {width : Nat} (bits : BitVec width) (notZero : 0 < bits.toNat) :
      bits.toNat.log2 < width := (Nat.log2_lt (Nat.ne_of_gt notZero)).mpr bits.isLt
  have bias : ((Format.binary64.exponentBias : Nat) : Int) = 1023 := rfl
  unfold Float.Model.unpack unpack at unpacks
  dsimp only at unpacks
  split at unpacks
  · split at unpacks <;> contradiction
  · rename_i notOnes
    have notGreatest : (@unpackExponent Format.binary64 model.toBits.toBitVec).toNat ≠ 2047 :=
      fun greatest => notOnes (BitVec.eq_of_toNat_eq greatest)
    have width : (@unpackExponent Format.binary64 model.toBits.toBitVec).toNat < 2048 :=
      (unpackExponent _).isLt
    split at unpacks
    · rename_i zero
      split at unpacks
      · contradiction
      · injection unpacks with _ mantissaEq exponentEq
        subst mantissaEq exponentEq
        have short := log2_lt _ positive
        exact ⟨Nat.le_of_lt_succ (Nat.lt_succ_of_lt short), by rw [zero, bias]; simp⟩
    · injection unpacks with _ mantissaEq exponentEq
      subst mantissaEq exponentEq
      have short := log2_lt _ positive
      exact ⟨Nat.le_of_lt_succ short, by omega⟩

/-! ## Arithmetic -/

theorem log2_shiftLeft_le (mantissa count : Nat) :
    (mantissa <<< count).log2 ≤ mantissa.log2 + count := by
  induction count with
  | zero => exact Nat.le_refl _
  | succ count ih =>
      rw [Nat.shiftLeft_succ]
      by_cases zero : mantissa <<< count = 0
      · simp [zero]
      · rw [Nat.log2_two_mul zero]
        omega

theorem isFinite_of_upTo {value : Float} {bound : Int} (small : UpTo bound value.toModel.unpack) :
    value.isFinite = true := by
  change value.toModel.unpack.isFinite = true
  cases unpacks : value.toModel.unpack with
  | zero _ => rfl
  | finite _ _ _ _ => rfl
  | infinity _ => simp [unpacks, UpTo] at small
  | notANumber => simp [unpacks, UpTo] at small

theorem upTo_round {mantissa : Nat} {exponent bound : Int}
    (small : totalExponent mantissa exponent ≤ bound + 1) (least : -1074 ≤ bound) (sign : Sign) :
    UpTo bound (round Format.binary64 sign mantissa exponent) := by
  apply upTo_roundWithAccuracy _ least
  have shifted := log2_shiftLeft_le mantissa
    (exponent - Format.binary64.targetExponent (totalExponent mantissa exponent)).toNat
  rw [totalExponent] at small ⊢
  omega

/-- An integer of 64 bits is a float with at most the exponent 63. -/
theorem upTo_toFloat (number : UInt64) : UpTo 63 number.toFloat.toModel.unpack := by
  have short : number.toNat.log2 ≤ 63 := by
    by_cases zero : number.toNat = 0
    · simp [zero]
    · exact Nat.le_of_lt_succ ((Nat.log2_lt zero).mpr number.toNat_lt_size)
  have total : totalExponent number.toNat 0 ≤ 63 + 1 := by
    rw [totalExponent]
    omega
  apply upTo_unpack_pack _ (by decide) (by decide)
  change UpTo 63 (UnpackedFloat.normalize Format.binary64 number.toNat 0 .positive)
  unfold UnpackedFloat.normalize
  split
  · have none : (-(number.toNat : Int)).toNat = 0 := by omega
    rw [none]
    exact upTo_round (by decide) (by decide) _
  · trivial
  · exact upTo_round total (by decide) _

/-! ## Powers of ten -/

/-- Whether the last place of a float is worth at least as much as that of one. -/
def isCoarse : UnpackedFloat → Bool
  | .finite _ _ exponent _ => -52 ≤ exponent
  | _ => false

/-- Whether a float has 53 digits and the exponent of a number between one and the
largest float. -/
def IsNormal : UnpackedFloat → Prop
  | .finite _ mantissa exponent _ => mantissa.log2 = 52 ∧ -52 ≤ exponent ∧ exponent ≤ 971
  | _ => False

/-- A mantissa that is shifted by no more than its logarithm does not vanish. -/
theorem shiftRight_pos {extended : ExtendedMantissa} (positive : 0 < extended.mantissa)
    {count : Nat} (short : count ≤ extended.mantissa.log2) : 0 < (extended >>> count).mantissa := by
  induction count with
  | zero => exact positive
  | succ count ih =>
      have before := ih (by omega)
      have kept := log2_shiftRight extended count
      have halved := Nat.log2_def (extended >>> count).mantissa
      change 0 < (extended >>> count).mantissa / 2
      split at halved <;> omega

/-- A long mantissa is shifted until it has 53 digits. -/
theorem mantissa_shiftToTargetExponent {mantissa : Nat} {exponent : Int}
    (long : 52 ≤ mantissa.log2) (least : -1021 ≤ totalExponent mantissa exponent)
    (accuracy : Accuracy) :
    let shifted := shiftToTargetExponent Format.binary64 mantissa exponent accuracy
    shifted.1.mantissa.log2 = 52 ∧ 0 < shifted.1.mantissa ∧
      shifted.2 = totalExponent mantissa exponent - 53 := by
  intro shifted
  let count := (max (totalExponent mantissa exponent - 53) (-1074) - exponent).toNat
  have total : totalExponent mantissa exponent = mantissa.log2 + 1 + exponent := by
    rw [totalExponent]
  have places : count + 52 = mantissa.log2 := by
    omega
  have raised : shifted.2 = max exponent (max (totalExponent mantissa exponent - 53) (-1074)) :=
    snd_shiftToTargetExponent mantissa exponent accuracy
  have initial := mantissa_ofMantissaAndAccuracy mantissa accuracy
  have positive : 0 < mantissa := by
    by_contra zero
    simp [Nat.eq_zero_of_not_pos zero] at long
  have left : 0 < shifted.1.mantissa :=
    @shiftRight_pos _ (initial.symm ▸ positive) count (by rw [initial]; omega)
  have kept : shifted.1.mantissa = 0 ∨ shifted.1.mantissa.log2 + count = mantissa.log2 :=
    initial ▸ log2_shiftRight (ExtendedMantissa.ofMantissaAndAccuracy mantissa accuracy) count
  omega

theorem le_roundedMantissa (extended : ExtendedMantissa) :
    extended.mantissa ≤ extended.roundedMantissa := by
  obtain ⟨mantissa, roundBit, stickyBit⟩ := extended
  cases roundBit <;> cases stickyBit <;>
    simp [ExtendedMantissa.roundedMantissa, ExtendedMantissa.accuracy,
      Accuracy.roundToNearestEven]

theorem isNormal_roundWithAccuracy {mantissa : Nat} {exponent : Int}
    (long : 52 ≤ mantissa.log2) (least : 1 ≤ totalExponent mantissa exponent)
    (greatest : totalExponent mantissa exponent ≤ 1023) (sign : Sign) (accuracy : Accuracy) :
    IsNormal (roundWithAccuracy Format.binary64 sign mantissa exponent accuracy) := by
  obtain ⟨digits, positive, raised⟩ :=
    @mantissa_shiftToTargetExponent mantissa exponent long (by omega) accuracy
  unfold roundWithAccuracy
  dsimp only
  generalize shiftToTargetExponent Format.binary64 mantissa exponent accuracy = shifted at *
  have lower := log2_le_log2 (le_roundedMantissa shifted.1)
  have upper := log2_le_log2 (roundedMantissa_le shifted.1)
  have carried := log2_succ_le shifted.1.mantissa
  have total : totalExponent shifted.1.roundedMantissa shifted.2 =
      shifted.1.roundedMantissa.log2 + 1 + shifted.2 := by
    rw [totalExponent]
  obtain ⟨finalDigits, finalPositive, finalRaised⟩ :=
    @mantissa_shiftToTargetExponent shifted.1.roundedMantissa shifted.2 (by omega) (by omega) .exact
  rw [dif_neg (Nat.ne_of_gt finalPositive)]
  exact ⟨finalDigits, by omega, by omega⟩

theorem isCoarse_unpack {bits : BitVec Format.binary64.numBits} {field : BitVec 11}
    (isField : unpackExponent bits = field) (least : 1023 ≤ field.toNat)
    (finite : field.toNat < 2047) : isCoarse (unpack Format.binary64 bits) = true := by
  have bias : ((Format.binary64.exponentBias : Nat) : Int) = 1023 := rfl
  have notOnes : field ≠ -1#_ := by
    rintro rfl
    exact absurd finite (by decide)
  have notZero : field ≠ 0#_ := by
    rintro rfl
    exact absurd least (by decide)
  unfold unpack
  dsimp only
  rw [isField, if_neg notOnes, if_neg notZero]
  rw [isCoarse, bias, decide_eq_true_eq]
  omega

theorem isCoarse_unpack_pack {value : UnpackedFloat} (normal : IsNormal value) :
    isCoarse (Float.Model.pack value).unpack = true := by
  cases value with
  | finite sign mantissa exponent positive =>
      obtain ⟨digits, least, greatest⟩ := normal
      have fits : (exponent + 1023 + 52).toNat < 2047 := by omega
      have field := toNat_exponentField fits
      change isCoarse (unpack Format.binary64 (pack Format.binary64 _)) = true
      unfold pack
      dsimp only
      split
      · rename_i overflows
        exact absurd overflows (Nat.not_le.mpr (Nat.succ_lt_succ fits))
      · split
        · apply isCoarse_unpack unpackExponent_packComponents
          · change 1023 ≤ (BitVec.ofNat 11 (exponent + 1023 + 52).toNat).toNat
            omega
          · change (BitVec.ofNat 11 (exponent + 1023 + 52).toNat).toNat < 2047
            omega
        · rename_i short
          exact absurd (congrArg (· + 1) digits) short
  | _ => contradiction

/-- A power of ten that is not exact is rounded from one. -/
theorem toModel_powerOfTen {exponent : Nat} (inexact : 22 < exponent) (small : exponent ≤ 308) :
    (powerOfTen exponent).toModel =
      Float.Model.pack (roundWithAccuracy Format.binary64 .positive
        (1 <<< 53 * Nat.pow 10 exponent) (-53) .exact) := by
  have scientific : powerOfTen exponent = ⟨Float.Model.ofScientific 1 exponent⟩ := by
    unfold powerOfTen Float.ofScientific
    rw [dif_neg (by omega)]
    rfl
  rw [scientific]
  change Float.Model.pack (ofScientific Format.binary64 1 exponent) = _
  unfold ofScientific
  rw [dif_neg Nat.one_ne_zero, if_neg, if_neg, if_pos]
  · rfl
  · omega
  · change ¬ (exponent : Int) < -(2048 + 0)
    omega
  · change ¬ (exponent : Int) > 2048
    omega

theorem isCoarse_powerOfTen {exponent : Nat} (small : exponent ≤ 308) :
    isCoarse (powerOfTen exponent).toModel.unpack = true := by
  have ends : ∀ exponent ≤ 308, exponent ≤ 22 ∨ exponent = 308 →
      isCoarse (powerOfTen exponent).toModel.unpack = true := by
    decide +kernel
  by_cases inner : 22 < exponent ∧ exponent ≤ 307
  · have monotone {first second : Nat} (le : first ≤ second) :
        (1 <<< 53 * Nat.pow 10 first).log2 ≤ (1 <<< 53 * Nat.pow 10 second).log2 :=
      log2_le_log2 (Nat.mul_le_mul_left _ (Nat.pow_le_pow_right (by decide) le))
    have lower : 53 ≤ (1 <<< 53 * Nat.pow 10 exponent).log2 :=
      Nat.le_trans (by decide +kernel) (monotone (Nat.zero_le exponent))
    have upper : (1 <<< 53 * Nat.pow 10 exponent).log2 ≤ 1072 :=
      Nat.le_trans (monotone inner.2) (by decide +kernel)
    rw [toModel_powerOfTen inner.1 small]
    apply isCoarse_unpack_pack
    apply isNormal_roundWithAccuracy
    · omega
    · rw [totalExponent]
      omega
    · rw [totalExponent]
      omega
  · exact ends exponent small (by omega)

/-! ## Quotients and products -/

/-- The quotient of a float by a power of ten. -/
theorem upTo_div {value divisor : Float} {bound : Int} (small : UpTo bound value.toModel.unpack)
    (coarse : isCoarse divisor.toModel.unpack = true) (least : -1074 ≤ bound)
    (greatest : bound + 104 ≤ 971) : UpTo (bound + 104) (value / divisor).toModel.unpack := by
  apply upTo_unpack_pack _ (by omega) greatest
  cases numerator : value.toModel.unpack with
  | infinity _ => simp [numerator, UpTo] at small
  | notANumber => simp [numerator, UpTo] at small
  | zero sign =>
      cases denominator : divisor.toModel.unpack with
      | finite _ _ _ _ => trivial
      | _ => simp [denominator, isCoarse] at coarse
  | finite sign mantissa exponent positive =>
      obtain ⟨short, -⟩ := bounds_of_unpack numerator
      cases denominator : divisor.toModel.unpack with
      | finite other divisor least divisorPositive =>
          simp only [numerator, denominator, UpTo, isCoarse, decide_eq_true_eq] at small coarse
          simp only [div, divCore]
          apply upTo_roundWithAccuracy _ (by omega)
          generalize Format.binary64.targetExponent _ = target
          have quotient (count : Nat) :
              (mantissa <<< count / divisor).log2 ≤ mantissa.log2 + count :=
            Nat.le_trans (log2_le_log2 (Nat.div_le_self _ _)) (log2_shiftLeft_le mantissa count)
          have places := quotient (exponent - least - min (exponent - least) target).toNat
          rw [totalExponent]
          omega
      | _ => simp [denominator, isCoarse] at coarse

theorem upTo_of_isFinite {value : Float} (finite : value.isFinite = true) :
    UpTo 971 value.toModel.unpack := by
  change value.toModel.unpack.isFinite = true at finite
  cases unpacks : value.toModel.unpack with
  | infinity _ => simp [unpacks, isFinite] at finite
  | notANumber => simp [unpacks, isFinite] at finite
  | zero _ => trivial
  | finite _ _ _ _ => exact (bounds_of_unpack unpacks).2

theorem isFinite_neg {value : Float} (finite : value.isFinite = true) :
    (-value).isFinite = true := by
  have small := upTo_of_isFinite finite
  apply isFinite_of_upTo (upTo_unpack_pack _ (by decide) (Int.le_refl 971))
  cases unpacks : value.toModel.unpack <;> rw [unpacks] at small <;> exact small

/-- A float that is too large for its format becomes infinite, but it stays a
number. -/
theorem isNaN_unpack_pack {value : UnpackedFloat} (finite : value.isFinite = true) :
    (Float.Model.pack value).unpack.isNaN = false := by
  have ofUpTo {other : UnpackedFloat} {bound : Int} (small : UpTo bound other) :
      other.isNaN = false := by
    cases other with
    | notANumber => contradiction
    | _ => rfl
  cases value with
  | infinity _ => contradiction
  | notANumber => contradiction
  | zero _ =>
      exact ofUpTo (upTo_unpack_pack trivial (Int.le_refl (-1074)) (by decide))
  | finite sign mantissa exponent positive =>
      by_cases small : exponent ≤ 971
      · exact ofUpTo (@upTo_unpack_pack (.finite sign mantissa exponent positive) 971 small
          (by decide) (Int.le_refl 971))
      · have overflows : 2048 ≤ (exponent + 1023 + 52).toNat + 1 := by omega
        change (unpack Format.binary64 (pack Format.binary64 _)).isNaN = false
        unfold pack
        dsimp only
        split
        · cases sign <;> rfl
        · rename_i fits
          exact absurd overflows fits

theorem isFinite_mul {value factor : Float} (finite : value.isFinite = true)
    (factorFinite : factor.isFinite = true) (inRange : (value * factor).isInf = false) :
    (value * factor).isFinite = true := by
  have small := upTo_of_isFinite finite
  have factorSmall := upTo_of_isFinite factorFinite
  have product : (mul Format.binary64 value.toModel.unpack factor.toModel.unpack).isFinite =
      true := by
    cases left : value.toModel.unpack <;> cases right : factor.toModel.unpack <;>
      simp only [left, right, UpTo] at small factorSmall
    all_goals simp only [mul, roundWithAccuracy]
    all_goals first | rfl | (split <;> rfl)
  have number := isNaN_unpack_pack product
  change (Float.Model.pack _).unpack.isInf = false at inRange
  change (Float.Model.pack _).unpack.isFinite = true
  cases unpacks : (Float.Model.pack
      (mul Format.binary64 value.toModel.unpack factor.toModel.unpack)).unpack with
  | infinity _ => simp [unpacks, isInf] at inRange
  | notANumber =>
      rw [unpacks] at number
      contradiction
  | zero _ => rfl
  | finite _ _ _ _ => rfl

/-! ## Spellings -/

/-- Dividing by powers of ten keeps a significand finite. -/
theorem isFinite_scaleDown (number : UInt64) {exponent : Nat} (positive : 0 < exponent) :
    (scaleDown number.toFloat exponent).isFinite = true := by
  have repeated (count : Nat) (few : count ≤ 3) : UpTo (63 + 104 * count)
      (Nat.repeat (· / powerOfTen 308) count number.toFloat).toModel.unpack := by
    induction count with
    | zero => exact upTo_toFloat number
    | succ count ih =>
        have after := upTo_div (ih (by omega)) (isCoarse_powerOfTen (Nat.le_refl 308))
          (by omega) (by omega)
        have bound : (63 + 104 * ((count + 1 : Nat) : Int)) = 63 + 104 * count + 104 := by omega
        rw [bound]
        exact after
  have steps := repeated (min ((exponent - 1) / 308) 3) (Nat.min_le_right _ 3)
  have rest : exponent - 308 * ((exponent - 1) / 308) ≤ 308 := by omega
  exact isFinite_of_upTo (upTo_div steps (isCoarse_powerOfTen rest) (by omega) (by omega))

theorem isFinite_toFloat (number : UInt64) : number.toFloat.isFinite = true :=
  isFinite_of_upTo (upTo_toFloat number)

theorem isFinite_powerOfTen {exponent : Nat} (small : exponent ≤ 308) :
    (powerOfTen exponent).isFinite = true := by
  have coarse := isCoarse_powerOfTen small
  change (powerOfTen exponent).toModel.unpack.isFinite = true
  cases unpacks : (powerOfTen exponent).toModel.unpack with
  | finite _ _ _ _ => rfl
  | _ => simp [unpacks, isCoarse] at coarse

theorem isFinite_of_scaled {significand : Nat} {exponent : Int} {value : Float}
    (isScaled : scaled significand exponent = some value) : value.isFinite = true := by
  simp only [scaled] at isScaled
  split at isScaled
  · split at isScaled
    · cases isScaled
      exact isFinite_toFloat _
    · split at isScaled
      · contradiction
      · split at isScaled
        · contradiction
        · rename_i inRange
          cases isScaled
          exact isFinite_mul (isFinite_toFloat _) (isFinite_powerOfTen (by omega))
            (Bool.eq_false_iff.mpr inRange)
  · cases isScaled
    exact isFinite_scaleDown _ (by omega)

/-- A spelling that is read as a float is read as a finite one. -/
theorem isFinite_of_read {spelling : Spelling} {value : Float}
    (reads : spelling.read = .float value) : value.isFinite = true := by
  simp only [Spelling.read] at reads
  split at reads
  · split at reads
    · contradiction
    · split at reads
      · contradiction
      · cases reads
        exact isFinite_neg (isFinite_toFloat _)
  · split at reads
    · contradiction
    · rename_i magnitude isScaled
      have finite := isFinite_of_scaled isScaled
      cases reads
      split
      · exact isFinite_neg finite
      · exact finite

end TreeSieve.Decimal
