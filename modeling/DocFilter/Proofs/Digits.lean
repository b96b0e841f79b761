import DocFilter.LikePattern
import DocFilter.Proofs.WholeNumbers

/-!
# What fits within a limit on digits

A whole float is written as an integer, digit by digit, and the largest one
has three hundred and nine of them (`Binary64.natAbs_lt_of_integer?`). No
limit is as low as that, so a float is always written
(`Binary64.fits_of_integer?`), and it is right that `Value.fits` asks for the
integers alone.

The filter text of a sequence is made of those of its items, one after
another, and ends in the fault of the first item that is not written; since
this is the same fault for all of them, the text can be asked for as a whole
(`Value.filterTextWithin_seq`, `Value.listTextWithin_eq`).
-/

namespace DocFilter

/-! ## Floats -/

namespace Binary64

/-- The significand of a number has at most fifty-three bits. -/
theorem significand_lt (x : Binary64) : x.significand < 2 ^ 53 := by
  have hfraction : x.fraction.val < 2 ^ 52 := x.fraction.isLt
  have hpow : Nat.pow 2 52 = 2 ^ 52 := rfl
  unfold significand
  split
  · omega
  · omega

/-- The scale of a finite number is at most 971. -/
theorem scale_le {x : Binary64} (h : x.isFinite = true) : x.scale ≤ 971 := by
  have hlast : x.exponent ≠ 2047 := bne_iff_ne.mp h
  have hexponent : x.exponent.val ≠ 2047 := fun heq => hlast (Fin.ext heq)
  have hbound := x.exponent.isLt
  unfold scale
  split
  · omega
  · omega

/-- A product with a power of two. -/
theorem mul_two_pow_lt {a b j c : Nat} (ha : a < 2 ^ b) (hj : j ≤ c) :
    a * 2 ^ j < 2 ^ (b + c) :=
  calc a * 2 ^ j
      < 2 ^ b * 2 ^ j := Nat.mul_lt_mul_of_pos_right ha (Nat.two_pow_pos j)
    _ ≤ 2 ^ b * 2 ^ c :=
        Nat.mul_le_mul_left _ (Nat.pow_le_pow_right (by decide) hj)
    _ = 2 ^ (b + c) := (Nat.pow_add 2 b c).symm

/-- **A whole number has at most as many bits as the format reaches.** -/
theorem natAbs_lt_of_integer? {x : Binary64} {n : Int}
    (h : x.integer? = some n) : n.natAbs < 2 ^ (53 + 971) := by
  obtain ⟨hfinite, hvalue⟩ := integer?_eq_some_iff.mp h
  have hnat := congrArg Int.natAbs hvalue
  rw [Int.natAbs_mul, Int.natAbs_mul, natAbs_signed, Int.natAbs_pow,
    Int.natAbs_pow] at hnat
  have hscale : x.scale.toNat ≤ 971 := Int.toNat_le.mpr (scale_le hfinite)
  calc n.natAbs
      ≤ n.natAbs * 2 ^ (-x.scale).toNat :=
        Nat.le_mul_of_pos_right _ (Nat.two_pow_pos _)
    _ = x.significand * 2 ^ x.scale.toNat := hnat
    _ < 2 ^ (53 + 971) := mul_two_pow_lt x.significand_lt hscale

/-- Three bits are less than a digit. -/
theorem two_pow_le_ten_pow {a b : Nat} (h : a ≤ 3 * b) : 2 ^ a ≤ 10 ^ b :=
  calc 2 ^ a
      ≤ 2 ^ (3 * b) := Nat.pow_le_pow_right (by decide) h
    _ = (2 ^ 3) ^ b := Nat.pow_mul 2 3 b
    _ ≤ 10 ^ b := Nat.pow_le_pow_left (by decide) b

/-- **The integer a float stands for is written**, whatever the limit. -/
theorem fits_of_integer? {x : Binary64} {n : Int} (h : x.integer? = some n)
    (limit : DigitLimit) : (Value.int n).fits limit = true := by
  show limit.admits n = true
  unfold DigitLimit.admits
  obtain hzero | hleast := limit.valid
  · rw [beq_iff_eq.mpr hzero, Bool.true_or]
  · have hn : n.natAbs < 10 ^ limit.digits :=
      (natAbs_lt_of_integer? h).trans_le (two_pow_le_ten_pow (by omega))
    have hdigits : n.natAbs < Nat.pow 10 limit.digits := hn
    rw [decide_eq_true hdigits, Bool.or_true]

end Binary64

/-! ## Texts made of texts -/

/-- Items written one after another, each within a limit. -/
theorem DigitLimit.mapM_guard (limit : DigitLimit) (write : Value → String)
    (vs : List Value) :
    vs.mapM (fun v => limit.guard [v] (.ok (write v)))
      = limit.guard vs (.ok (vs.map write)) := by
  induction vs with
  | nil => rfl
  | cons v vs ih =>
    rw [List.mapM_cons, ih]
    unfold guard
    rw [Value.allFit, Value.allFit, Value.allFit, Bool.and_true]
    cases v.fits limit with
    | false => rfl
    | true =>
      cases Value.allFit limit vs with
      | false => rfl
      | true => rfl

/-- What is made of texts is made of them within the limit. -/
theorem DigitLimit.map_guard {α β : Type} (limit : DigitLimit) (f : α → β)
    (vs : List Value) (made : Except Fault α) :
    (limit.guard vs made).map f = limit.guard vs (made.map f) := by
  unfold guard
  split <;> rfl

namespace Value

/-- **The filter text of a sequence** is made of the filter texts of its
items. -/
theorem filterTextWithin_seq (limit : DigitLimit) (f : SeqForm)
    (vs : List Value) :
    (Value.seq f vs).filterTextWithin limit
      = (vs.mapM (filterTextWithin limit)).map (",".intercalate ·) := by
  show _ = (vs.mapM fun v => limit.guard [v] (.ok v.filterText)).map _
  rw [DigitLimit.mapM_guard, DigitLimit.map_guard]
  show limit.guard [.seq f vs] (.ok (filterText (.seq f vs)))
    = limit.guard vs (.ok (",".intercalate (vs.map filterText)))
  rw [filterText, filterTexts_eq_map]
  unfold DigitLimit.guard
  rw [allFit, allFit, fits, Bool.and_true]

/-- **A written list** is made of its written items. -/
theorem listTextWithin_eq (limit : DigitLimit) (quoted : Bool)
    (vs : List Value) :
    listTextWithin limit quoted vs
      = (vs.mapM fun v => limit.guard [v] (.ok (v.itemText quoted))).map
          fun items => "(" ++ ",".intercalate items ++ ")" := by
  rw [DigitLimit.mapM_guard, DigitLimit.map_guard]
  rfl

/-- **The filter text of a float** is that of its integer, if it is whole. -/
theorem filterTextWithin_float (limit : DigitLimit) (x : Binary64) :
    (Value.float x).filterTextWithin limit
      = match x.integer? with
        | some n => (Value.int n).filterTextWithin limit
        | none => .ok x.text := by
  show Except.ok (Atom.filterText (.float x)) = _
  unfold Atom.filterText
  dsimp only
  cases h : x.integer? with
  | none => rfl
  | some n =>
    have hfit : allFit limit [.int n] = true := by
      rw [allFit, allFit, Binary64.fits_of_integer? h, Bool.and_true]
    exact (DigitLimit.guard_of_fit hfit (.ok (toString n))).symm

end Value

end DocFilter
