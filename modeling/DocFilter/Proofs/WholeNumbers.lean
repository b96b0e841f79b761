import Mathlib.Algebra.Order.Ring.Int
import DocFilter.Value.Equality

/-!
# Floating-point numbers that are integers

A finite number is `± m · 2 ^ q`, and it stands for an integer `n` if this is
`n` – which can be said without fractions, by moving the power to the side
where its exponent is not negative (`Binary64.integer?_eq_some_iff`). So the
integer of a number is exact at any size: no digit is rounded, and there is a
number for every power of two that the format reaches.

An integer may be the value of several numbers – zero is – but one is the
value of a single one (`Binary64.integer?_eq_one_iff`), because the
significand of a normal number has its first bit set.
-/

namespace DocFilter

namespace Binary64

/-- Without its sign, the signed significand is the significand. -/
theorem natAbs_signed (x : Binary64) : x.signed.natAbs = x.significand := by
  unfold signed
  split
  · rw [Int.natAbs_neg, Int.natAbs_natCast]
  · rw [Int.natAbs_natCast]

/-- A power of two as an integer. -/
theorem cast_pow_two (k : Nat) : ((Nat.pow 2 k : Nat) : Int) = 2 ^ k :=
  Int.natCast_pow 2 k

/-- **The integer of a number** is its exact value: `n = ± m · 2 ^ q`, with
the power on the side where it is whole. -/
theorem integer?_eq_some_iff {x : Binary64} {n : Int} :
    x.integer? = some n
      ↔ x.isFinite = true
        ∧ n * 2 ^ (-x.scale).toNat = x.signed * 2 ^ x.scale.toNat := by
  cases hfinite : x.isFinite with
  | false => simp [integer?, hfinite]
  | true =>
    simp only [integer?, hfinite, Bool.not_true, Bool.false_eq_true, if_false,
      true_and]
    split
    · next hscale =>
      have hzero : (-x.scale).toNat = 0 := by omega
      rw [hzero, pow_zero, mul_one, Option.some.injEq, eq_comm, cast_pow_two]
    · next hscale =>
      have hzero : x.scale.toNat = 0 := by omega
      rw [hzero, pow_zero, mul_one]
      generalize (-x.scale).toNat = k
      have hdvd : (2 ^ k : Int) ∣ x.signed
          ↔ x.significand % Nat.pow 2 k = 0 := by
        rw [← cast_pow_two, Int.natCast_dvd, natAbs_signed, Nat.dvd_iff_mod_eq_zero]
      split
      · next hwhole =>
        rw [Option.some.injEq, cast_pow_two,
          Int.ediv_eq_iff_eq_mul_left (pow_ne_zero k two_ne_zero)
            (hdvd.mpr hwhole),
          eq_comm]
      · next hpart =>
        refine iff_of_false (Option.some_ne_none n).symm fun h => hpart ?_
        exact hdvd.mp ⟨n, by rw [← h, mul_comm]⟩

/-- The number one. -/
def one : Binary64 := ⟨false, ⟨1023, by decide⟩, ⟨0, by decide⟩⟩

/-- A number with a power of two for its significand, at the scale that this
power undoes, is normal and has an empty fraction. -/
theorem fields_of_significand {x : Binary64}
    (h : x.significand * 2 ^ x.scale.toNat = 2 ^ (-x.scale).toNat) :
    x.exponent.val = 1023 ∧ x.fraction.val = 0 := by
  have hfraction : x.fraction.val < 2 ^ 52 := x.fraction.isLt
  by_cases hexponent : x.exponent = 0
  · -- The power would be far above all fractions.
    have hscale : x.scale = -1074 := if_pos hexponent
    have hsignificand : x.significand = x.fraction.val := if_pos hexponent
    rw [hscale, hsignificand] at h
    have hlarge : 2 ^ 52 ≤ 2 ^ (-(-1074 : Int)).toNat :=
      Nat.pow_le_pow_right (by decide) (by decide)
    have hsmall : x.fraction.val * 2 ^ (-1074 : Int).toNat
        = x.fraction.val := Nat.mul_one _
    omega
  · have hscale : x.scale = (x.exponent.val : Int) - 1075 := if_neg hexponent
    have hsignificand : x.significand = 2 ^ 52 + x.fraction.val :=
      if_neg hexponent
    rw [hsignificand] at h
    have hnegative : x.scale < 0 := by
      refine not_le.mp fun hle => ?_
      rw [show (-x.scale).toNat = 0 by omega, pow_zero] at h
      have hfactor := Nat.eq_one_of_mul_eq_one_right h
      omega
    rw [show x.scale.toNat = 0 by omega, pow_zero, mul_one] at h
    -- Between the two powers around the significand there is no other.
    have hlow : 52 ≤ (-x.scale).toNat :=
      (Nat.pow_le_pow_iff_right (by decide : 1 < 2)).mp (by omega)
    have hhigh : (-x.scale).toNat < 53 :=
      (Nat.pow_lt_pow_iff_right (by decide : 1 < 2)).mp (by omega)
    have hpower : (-x.scale).toNat = 52 := by omega
    rw [hpower] at h
    omega

/-- **Only one number is one.** -/
theorem integer?_eq_one_iff {x : Binary64} :
    x.integer? = some 1 ↔ x = one := by
  constructor
  · intro hone
    obtain ⟨-, hvalue⟩ := integer?_eq_some_iff.mp hone
    rw [one_mul] at hvalue
    have hpositive : 0 < x.signed := by
      have hpow : (0 : Int) < x.signed * 2 ^ x.scale.toNat :=
        hvalue ▸ pow_pos two_pos _
      exact (mul_pos_iff_of_pos_right (pow_pos two_pos _)).mp hpow
    have hsign : x.negative = false := by
      by_contra hnegative
      have hsigned : x.signed = -(x.significand : Int) :=
        if_pos (Bool.eq_true_of_not_eq_false hnegative)
      omega
    have hnat := congrArg Int.natAbs hvalue
    rw [Int.natAbs_mul, natAbs_signed, Int.natAbs_pow, Int.natAbs_pow] at hnat
    obtain ⟨hexponent, hfraction⟩ := fields_of_significand hnat.symm
    rcases x with ⟨negative, exponent, fraction⟩
    obtain rfl := hsign
    obtain rfl : exponent = ⟨1023, by decide⟩ := Fin.ext hexponent
    obtain rfl : fraction = ⟨0, by decide⟩ := Fin.ext hfraction
    rfl
  · rintro rfl
    decide

end Binary64

/-! ## Equality with a number -/

namespace Value

/-- A float equals an integer exactly if it stands for it. -/
theorem equals_float_int_iff {x : Binary64} {n : Int} :
    (Value.float x).equals (.int n) = true ↔ x.integer? = some n := by
  show (x.integer? == some n) = true ↔ _
  exact beq_iff_eq

/-- **What equals one**: the integer, the truth value and one float. -/
theorem isOne_iff {v : Value} :
    v.isOne = true
      ↔ v = .int 1 ∨ v = .bool true ∨ v = .float Binary64.one := by
  cases v with
  | seq f vs => simp [isOne, equals]
  | doc ms => simp [isOne, equals]
  | atom a =>
    cases a with
    | float x =>
      rw [isOne, equals_float_int_iff, Binary64.integer?_eq_one_iff]
      simp
    | int n => simp [isOne_int]
    | bool b => simp [isOne_bool]
    | null | text | bytes | pattern =>
      simp [isOne, equals, Atom.equals, Atom.integer?]

end Value

end DocFilter
