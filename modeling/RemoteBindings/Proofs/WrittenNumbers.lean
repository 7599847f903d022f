import RemoteBindings.Decimal.Notation

/-!
# Written numbers are numbers

`Number.toFloat` always gives a number, be it an infinity: `Number.isNaN_toFloat`. The float of a
decimal number is a product or a quotient of two numbers, the second of which is neither zero nor
infinite, and neither rounding nor storing makes anything else of a number.
-/

namespace RemoteBindings.Decimal

open Float.Model (Format UnpackedFloat)
open Float.Model.UnpackedFloat

variable (spec : Format)

/-! ## Rounding -/

theorem isNaN_roundWithAccuracy (sign : Sign) (m : Nat) (e : Int) (a : Accuracy) :
    (roundWithAccuracy spec sign m e a).isNaN = false := by
  unfold roundWithAccuracy
  dsimp only
  rw [apply_dite UnpackedFloat.isNaN]
  exact dite_eq_left_iff.mpr fun _ => rfl

theorem isNaN_normalize (m e : Int) (sign : Sign) :
    (UnpackedFloat.normalize spec m e sign).isNaN = false := by
  unfold UnpackedFloat.normalize
  split
  · exact isNaN_roundWithAccuracy ..
  · rfl
  · exact isNaN_roundWithAccuracy ..

theorem isNaN_mul_finite {x : UnpackedFloat} (hx : x.isNaN = false) (sign : Sign) (m : Nat)
    (e : Int) (hm : 0 < m) : (mul spec x (.finite sign m e hm)).isNaN = false := by
  cases x with
  | notANumber => cases hx
  | infinity => rfl
  | zero => rfl
  | finite => exact isNaN_roundWithAccuracy ..

theorem isNaN_div_finite {x : UnpackedFloat} (hx : x.isNaN = false) (sign : Sign) (m : Nat)
    (e : Int) (hm : 0 < m) : (div spec x (.finite sign m e hm)).isNaN = false := by
  cases x with
  | notANumber => cases hx
  | infinity => rfl
  | zero => rfl
  | finite => exact isNaN_roundWithAccuracy ..

theorem isNaN_ofScientific (m : Nat) (e : Int) : (ofScientific spec m e).isNaN = false := by
  unfold ofScientific
  by_cases hm : m = 0
  · rw [dif_pos hm]
    rfl
  · rw [dif_neg hm, apply_ite isNaN, apply_ite isNaN, apply_ite isNaN]
    refine ite_eq_left_iff.mpr fun _ => ite_eq_left_iff.mpr fun _ => ?_
    by_cases he : 0 ≤ e
    · rw [if_pos he]
      exact isNaN_mul_finite spec (x := .finite ..) rfl ..
    · rw [if_neg he]
      exact isNaN_div_finite spec (x := .finite ..) rfl ..

theorem isNaN_neg {x : UnpackedFloat} (hx : x.isNaN = false) : x.neg.isNaN = false := by
  cases x with
  | notANumber => cases hx
  | infinity => rfl
  | zero => rfl
  | finite => rfl

/-! ## Storing -/

/-- Only the largest exponent marks what is no number. -/
theorem isNaN_unpack_packComponents (sign : Sign) {e : BitVec spec.exponentBits} (he : e ≠ -1#_)
    (m : BitVec spec.mantissaBitsWithoutImplicit) :
    (unpack spec (packComponents spec sign e m)).isNaN = false := by
  unfold unpack
  rw [unpackExponent_packComponents]
  dsimp only
  rw [if_neg he]
  by_cases hzero : e = 0#_
  · rw [if_pos hzero, apply_dite isNaN]
    exact dite_eq_left_iff.mpr fun _ => rfl
  · rw [if_neg hzero]
    rfl

theorem isNaN_unpack_packedInfinity (sign : Sign) :
    (unpack spec (packedInfinity spec sign)).isNaN = false := by
  unfold unpack packedInfinity
  rw [unpackExponent_packComponents]
  dsimp only
  rw [if_pos rfl, unpackMantissa_packComponents]
  rfl

theorem isNaN_unpack_pack {x : UnpackedFloat} (hx : x.isNaN = false) :
    (unpack spec (pack spec x)).isNaN = false := by
  have hexponent {n : Nat} (hn : n + 1 < 2 ^ spec.exponentBits) :
      BitVec.ofNat spec.exponentBits n ≠ -1#_ := by
    intro heq
    have hval := congrArg BitVec.toNat heq
    rw [BitVec.toNat_ofNat, Nat.mod_eq_of_lt (by omega), BitVec.neg_one_eq_allOnes,
      BitVec.toNat_allOnes] at hval
    omega
  have hzero : 0 + 1 < 2 ^ spec.exponentBits := Nat.one_lt_two_pow (by have := spec.he; omega)
  cases x with
  | notANumber => cases hx
  | infinity sign => exact isNaN_unpack_packedInfinity ..
  | zero sign => exact isNaN_unpack_packComponents spec sign (hexponent hzero) 0
  | finite sign m e hm =>
    unfold pack
    dsimp only
    split
    · exact isNaN_unpack_packedInfinity ..
    · next hsmall =>
      split
      · exact isNaN_unpack_packComponents spec sign (hexponent (by omega)) _
      · exact isNaN_unpack_packComponents spec sign (hexponent hzero) _

/-! ## Floats -/

theorem isNaN_ofModel_pack {x : UnpackedFloat} (hx : x.isNaN = false) :
    (Float.ofModel (.pack x)).isNaN = false := isNaN_unpack_pack _ hx

theorem isNaN_neg_float {x : Float} (hx : x.isNaN = false) : (-x).isNaN = false :=
  isNaN_ofModel_pack (isNaN_neg hx)

/-- Whether a number is neither zero nor infinite. -/
def isProper : UnpackedFloat → Bool
  | .finite .. => true
  | _ => false

theorem isNaN_mul_float {x y : Float} (hx : x.isNaN = false)
    (hy : isProper y.toModel.unpack = true) : (x * y).isNaN = false := by
  refine isNaN_ofModel_pack ?_
  cases h : y.toModel.unpack with
  | finite => exact isNaN_mul_finite _ hx ..
  | _ =>
    rw [h] at hy
    cases hy

theorem isNaN_div_float {x y : Float} (hx : x.isNaN = false)
    (hy : isProper y.toModel.unpack = true) : (x / y).isNaN = false := by
  refine isNaN_ofModel_pack ?_
  cases h : y.toModel.unpack with
  | finite => exact isNaN_div_finite _ hx ..
  | _ =>
    rw [h] at hy
    cases hy

theorem isProper_powerOfTen : ∀ x ∈ Float.exactlyRepresentablePowersOfTen.toList,
    isProper x.toModel.unpack = true := by
  decide +kernel

theorem isNaN_ofScientific_float (m : Nat) (s : Bool) (e : Nat) :
    (Float.ofScientific m s e).isNaN = false := by
  unfold Float.ofScientific
  split
  · next h =>
    have hm : m.toUInt64.toFloat.isNaN = false := isNaN_ofModel_pack (isNaN_normalize ..)
    have hlt : e < Float.exactlyRepresentablePowersOfTen.size := by
      simp [Float.exactlyRepresentablePowersOfTen]
      omega
    have hten := isProper_powerOfTen Float.exactlyRepresentablePowersOfTen[e]
      (Array.getElem_mem_toList hlt)
    dsimp only
    split
    · exact isNaN_div_float hm hten
    · exact isNaN_mul_float hm hten
  · exact isNaN_ofModel_pack (isNaN_ofScientific ..)

/-- What is written as a number is one. -/
theorem Number.isNaN_toFloat (d : Number) (negative : Bool) :
    (d.toFloat negative).isNaN = false := by
  have hzero : (0.0 : Float).isNaN = false := isNaN_ofScientific_float ..
  have hinf : (1.0 / 0.0 : Float).isNaN = false := by decide +kernel
  have hsize : (d.toFloat false).isNaN = false := by
    simp only [toFloat, Bool.false_eq_true, if_false]
    split
    · exact hzero
    · split
      · exact hinf
      · exact isNaN_ofScientific_float ..
  cases negative with
  | false => exact hsize
  | true => exact isNaN_neg_float hsize

end RemoteBindings.Decimal
