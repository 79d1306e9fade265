import Harmonograph.Figure.Generator
import Mathlib.Algebra.Group.Nat.Defs
import Mathlib.Logic.Basic

/-!
Positive numbers. What is a number and not at most zero is above zero.
-/

namespace Harmonograph

open Float.Model

section Order

variable {x y : Float}

theorem lt_iff_compare : x < y ↔ x.toModel.unpack.compare y.toModel.unpack = some .lt := by
  change Float.lt x y = true ↔ _
  rw [Float.lt, decide_eq_true_iff]
  change UnpackedFloat.lt _ _ = true ↔ _
  rw [UnpackedFloat.lt, beq_iff_eq]

theorem le_iff_compare :
    x ≤ y ↔ (x.toModel.unpack.compare y.toModel.unpack).any (·.isLE) = true := by
  change Float.le x y = true ↔ _
  rw [Float.le, decide_eq_true_iff]
  rfl

theorem zero_lt_iff_not_le : 0 < x ↔ x.toModel.unpack ≠ .notANumber ∧ ¬ x ≤ 0 := by
  have hzero : (0 : Float).toModel.unpack = .zero .positive := rfl
  rw [lt_iff_compare, le_iff_compare, hzero]
  cases x.toModel.unpack with
  | notANumber => exact iff_of_false nofun fun h ↦ h.1 rfl
  | zero s => exact iff_of_false nofun fun h ↦ h.2 rfl
  | infinity s | finite s =>
    cases s with
    | positive => exact iff_of_true rfl ⟨nofun, Bool.false_ne_true⟩
    | negative => exact iff_of_false nofun fun h ↦ h.2 rfl

end Order

section Bits

abbrev exponentOf (b : BitVec 64) : BitVec 11 := @UnpackedFloat.unpackExponent .binary64 b

abbrev mantissaOf (b : BitVec 64) : BitVec 52 := @UnpackedFloat.unpackMantissa .binary64 b

variable {b : BitVec 64}

theorem toNat_exponentOf : (exponentOf b).toNat = b.toNat / 2 ^ 52 % 2 ^ 11 := by
  simp [UnpackedFloat.unpackExponent, Nat.shiftRight_eq_div_pow]

theorem toNat_mantissaOf : (mantissaOf b).toNat = b.toNat % 2 ^ 52 := by
  simp [UnpackedFloat.unpackMantissa]

theorem unpack_eq_notANumber_iff : UnpackedFloat.unpack .binary64 b = .notANumber ↔
    (exponentOf b).toNat = 2047 ∧ (mantissaOf b).toNat ≠ 0 := by
  have hexponent : (exponentOf b).toNat = 2047 ↔ exponentOf b = -BitVec.ofNat 11 1 :=
    BitVec.toNat_inj (y := -BitVec.ofNat 11 1)
  have hmantissa : (mantissaOf b).toNat = 0 ↔ mantissaOf b = BitVec.ofNat 52 0 :=
    BitVec.toNat_inj (y := BitVec.ofNat 52 0)
  rw [hexponent, ne_eq, hmantissa]
  constructor
  · intro h
    rcases ite_eq_iff.1 h with ⟨he, h⟩ | ⟨-, h⟩
    · rcases ite_eq_iff.1 h with ⟨-, h⟩ | ⟨hm, -⟩
      · cases h
      · exact ⟨he, hm⟩
    · rcases ite_eq_iff.1 h with ⟨-, h⟩ | ⟨-, h⟩
      · rcases dite_eq_iff.1 h with ⟨_, h⟩ | ⟨_, h⟩ <;> cases h
      · cases h
  · intro h
    exact (if_pos h.1).trans (if_neg h.2)

end Bits

/-- What lies above the pattern of an infinite number is no number. -/
theorem isNaN_iff {x : Float} : Binary64.isNaN x = true ↔ x.toModel.unpack = .notANumber := by
  have hbits : x.toBits.toNat = x.toModel.toBits.toBitVec.toNat := rfl
  have hlimit : Binary64.infinityBits = 2047 * 2 ^ 52 := rfl
  have hweight : Binary64.signWeight = 2 ^ 63 := rfl
  rw [Float.Model.unpack, unpack_eq_notANumber_iff, Binary64.isNaN, Binary64.magnitudeBits, hbits,
    decide_eq_true_iff, toNat_exponentOf, toNat_mantissaOf, hlimit, hweight]
  have hlt := x.toModel.toBits.toBitVec.isLt
  omega

theorem Generator.isPositive_iff {x : Float} : isPositive x = true ↔ 0 < x := by
  rw [zero_lt_iff_not_le, ne_eq, ← isNaN_iff, isPositive]
  simp

end Harmonograph
