/-
Module: SpriteStage.Proofs.Binary64.Bits
Purpose: Doubles built from a sign and a magnitude. Every double is the one that its sign and its magnitude
  build. Up to infinity a double has the sign and the magnitude that it was built from, and its significand
  and its power of two are those of the logical model of doubles. Doubles of one finite magnitude and one
  sign are equal as numbers, and so are the two zeros.
Main exports: signed_magnitude, toBits_signed, magnitude_signed, isNegative_signed, isFinite_signed,
  unpack_signed, signed_beq
-/
import Mathlib
import SpriteStage.Binary64.Basic

namespace SpriteStage.Binary64

open Float.Model Float.Model.UnpackedFloat

/-! ## The fields of a pattern -/

/-- The bits of the double with this sign and magnitude, as a number. -/
def pattern (negative : Bool) (b : Nat) : Nat := if negative then signBit + b else b

/-- The bits of the double with this sign and magnitude. -/
def patternBits (negative : Bool) (b : Nat) : BitVec Format.binary64.numBits :=
  (UInt64.ofNat (pattern negative b)).toBitVec

section Fields

variable (negative : Bool) {b : Nat} (bounded : b ≤ infinite)
include bounded

theorem toNat_patternBits : (patternBits negative b).toNat = pattern negative b := by
  have fits : pattern negative b < UInt64.size := by
    unfold pattern
    simp only [infinite, signBit, UInt64.size] at *
    split <;> omega
  exact UInt64.toNat_ofNat_of_lt fits

theorem toNat_unpackExponent : (unpackExponent (patternBits negative b)).toNat = b / normal := by
  rw [unpackExponent_def, BitVec.extractLsb'_toNat, Nat.shiftRight_eq_div_pow,
    toNat_patternBits negative bounded, pattern]
  simp only [infinite, signBit, normal] at *
  split <;> omega

theorem toNat_unpackMantissa : (unpackMantissa (patternBits negative b)).toNat = b % normal := by
  rw [unpackMantissa_def, BitVec.extractLsb'_toNat, Nat.shiftRight_eq_div_pow,
    toNat_patternBits negative bounded, pattern]
  simp only [infinite, signBit, normal] at *
  split <;> omega

theorem toNat_unpackSign : (unpackSign (patternBits negative b)).toNat = negative.toNat := by
  rw [unpackSign_def, BitVec.extractLsb'_toNat, Nat.shiftRight_eq_div_pow,
    toNat_patternBits negative bounded, pattern]
  simp only [infinite, signBit] at *
  cases negative <;> simp <;> omega

theorem unpackExponent_eq_iff {k : Nat} (fits : k < 2 ^ 11) :
    unpackExponent (patternBits negative b) = BitVec.ofNat 11 k ↔ b / normal = k := by
  rw [← BitVec.toNat_inj, toNat_unpackExponent negative bounded, BitVec.toNat_ofNat,
    Nat.mod_eq_of_lt fits]

theorem unpackMantissa_eq_zero_iff :
    unpackMantissa (patternBits negative b) = 0#52 ↔ b % normal = 0 := by
  rw [← BitVec.toNat_inj, toNat_unpackMantissa negative bounded, BitVec.toNat_ofNat, Nat.zero_mod]

theorem sign_patternBits :
    Sign.ofBitVec (unpackSign (patternBits negative b)) =
      if negative then .negative else .positive := by
  have sign := toNat_unpackSign negative bounded
  cases negative
  · have plus : unpackSign (patternBits false b) = 0#1 := BitVec.eq_of_toNat_eq sign
    rw [plus]
    rfl
  · have minus : unpackSign (patternBits true b) = 1#1 := BitVec.eq_of_toNat_eq sign
    rw [minus]
    rfl

/-- A pattern up to infinity is not one of an undefined number. -/
theorem defined_patternBits : isNaNBits (patternBits negative b) = false := by
  rw [isNaNBits, decide_eq_false_iff_not]
  rintro ⟨ones, some_bit⟩
  have largest := (unpackExponent_eq_iff negative bounded (by decide : 2047 < 2 ^ 11)).mp ones
  have rest := mt (unpackMantissa_eq_zero_iff negative bounded).mpr some_bit
  simp only [infinite, normal] at *
  omega

end Fields

/-! ## Signs and magnitudes -/

/-- A double is the one with its sign and its magnitude. -/
theorem signed_magnitude (x : Float) : signed (isNegative x) (magnitude x) = x := by
  have below := UInt64.toNat_lt x.toBits
  have bits : (if isNegative x then signBit + magnitude x else magnitude x) = x.toBits.toNat := by
    rw [isNegative, magnitude]
    simp only [signBit, decide_eq_true_eq]
    split <;> omega
  rw [signed, bits, UInt64.ofNat_toNat, Float.ofBits_toBits]

section Signed

variable (negative : Bool) {b : Nat}

theorem toBits_signed (bounded : b ≤ infinite) :
    (signed negative b).toBits.toBitVec = patternBits negative b := by
  refine (@pack_unpack Format.binary64 (patternBits negative b) (by decide)).trans ?_
  rw [defined_patternBits negative bounded]
  rfl

theorem toNat_toBits_signed (bounded : b ≤ infinite) :
    (signed negative b).toBits.toNat = pattern negative b := by
  rw [← UInt64.toNat_toBitVec, toBits_signed negative bounded]
  exact toNat_patternBits negative bounded

theorem magnitude_signed (bounded : b ≤ infinite) : magnitude (signed negative b) = b := by
  rw [magnitude, toNat_toBits_signed negative bounded, pattern]
  simp only [infinite, signBit] at *
  split <;> omega

theorem isNegative_signed (bounded : b ≤ infinite) :
    isNegative (signed negative b) = negative := by
  rw [isNegative, toNat_toBits_signed negative bounded, pattern]
  simp only [infinite, signBit] at *
  cases negative <;> simp
  omega

theorem isFinite_signed (bounded : b ≤ infinite) :
    isFinite (signed negative b) = decide (b < infinite) := by
  rw [isFinite, magnitude_signed negative bounded]

/-- A finite double with a magnitude that is not zero has the sign, the significand and the power of two that its
magnitude has, the power counted from the smallest one. -/
theorem unpack_signed (some_unit : 0 < b) (finite : b < infinite) :
    ∃ positive, (signed negative b).toModel.unpack =
      .finite (if negative then .negative else .positive) (significand b) (shift b - 1074) positive := by
  have exponent := toNat_unpackExponent negative finite.le
  have mantissa := toNat_unpackMantissa negative finite.le
  have positive : 0 < significand b := by
    unfold significand
    simp only [normal]
    split <;> omega
  have parts : (signed negative b).toModel.unpack =
      UnpackedFloat.unpack Format.binary64 (patternBits negative b) :=
    congrArg (UnpackedFloat.unpack Format.binary64) (toBits_signed negative finite.le)
  have notLargest : unpackExponent (patternBits negative b) ≠ -1#11 := by
    refine mt (unpackExponent_eq_iff negative finite.le (by decide : 2047 < 2 ^ 11)).mp ?_
    simp only [infinite, normal] at *
    omega
  have smallest := unpackExponent_eq_iff negative finite.le (by decide : 0 < 2 ^ 11)
  have bias : (Format.binary64.exponentBias : Int) + Format.binary64.mantissaBitsWithoutImplicit =
      1075 := by decide
  refine ⟨positive, ?_⟩
  rw [parts, UnpackedFloat.unpack, if_neg notLargest]
  by_cases small : b < normal
  · have some_bit := mt (unpackMantissa_eq_zero_iff negative finite.le).mp
      (by rw [Nat.mod_eq_of_lt small]; exact Nat.ne_of_gt some_unit)
    rw [if_pos (smallest.mpr (Nat.div_eq_of_lt small)), dif_neg some_bit, UnpackedFloat.finite.injEq]
    refine ⟨sign_patternBits negative finite.le, ?_, ?_⟩
    · rw [mantissa, significand, if_pos small, Nat.mod_eq_of_lt small]
    · rw [exponent, shift, Nat.div_eq_of_lt small, bias]
      rfl
  · have larger := mt smallest.mp (by simp only [normal] at *; omega)
    have inside : b % normal < 2 ^ 52 := Nat.mod_lt _ (by decide)
    rw [if_neg larger, UnpackedFloat.finite.injEq]
    refine ⟨sign_patternBits negative finite.le, ?_, ?_⟩
    · rw [significand, if_neg small]
      refine (BitVec.toNat_append _ _).trans ?_
      rw [mantissa, ← Nat.shiftLeft_add_eq_or_of_lt inside]
      rfl
    · rw [exponent, shift, bias]
      simp only [normal] at *
      omega

end Signed

/-! ## Equality as numbers -/

theorem zeros_beq (first second : Bool) : (signed first 0 == signed second 0) = true := by
  cases first <;> cases second <;> decide +kernel

theorem signed_beq_self (negative : Bool) {b : Nat} (finite : b < infinite) :
    (signed negative b == signed negative b) = true := by
  rcases Nat.eq_zero_or_pos b with rfl | some_unit
  · exact zeros_beq negative negative
  · obtain ⟨positive, parts⟩ := unpack_signed negative some_unit finite
    have same :
        (signed negative b).toModel.unpack.beq (signed negative b).toModel.unpack = true := by
      rw [parts]
      cases negative <;> simp [UnpackedFloat.beq, UnpackedFloat.compare]
    exact same

theorem beq_self {x : Float} (finite : magnitude x < infinite) : (x == x) = true := by
  have same := signed_beq_self (isNegative x) finite
  rwa [signed_magnitude] at same

/-- Finite doubles of one magnitude are equal as numbers if they have one sign or are zero. -/
theorem signed_beq {first second : Bool} {b : Nat} (finite : b < infinite)
    (signs : b = 0 ∨ first = second) : (signed first b == signed second b) = true := by
  rcases signs with rfl | rfl
  · exact zeros_beq first second
  · exact signed_beq_self first finite

end SpriteStage.Binary64
