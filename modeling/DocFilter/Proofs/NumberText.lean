import DocFilter.Decimal.Shortest

/-!
# The characters of a written number

A written number is made of few characters: digits, the two signs, the
point, and the letters of the exponent mark and of the words for what is no
finite number (`isNumeral_toString`, `Binary64.isNumeral_text`). So a text
can set numbers apart by any other character and never has to look inside
one.
-/

namespace DocFilter

/-- **The characters of numbers.** -/
def isNumeral (c : Char) : Bool :=
  c.isDigit || ['+', '-', '.', 'a', 'e', 'f', 'i', 'n'].contains c

/-- Characters that are all characters of numbers. -/
def Numeral (cs : List Char) : Prop := ∀ c ∈ cs, isNumeral c = true

namespace Numeral

variable {cs ds : List Char}

theorem nil : Numeral [] := fun _ hc => absurd hc List.not_mem_nil

theorem cons {c : Char} (hc : isNumeral c = true) (h : Numeral cs) :
    Numeral (c :: cs) := List.forall_mem_cons.mpr ⟨hc, h⟩

theorem append (h : Numeral cs) (k : Numeral ds) : Numeral (cs ++ ds) :=
  List.forall_mem_append.mpr ⟨h, k⟩

theorem take (h : Numeral cs) (n : Nat) : Numeral (cs.take n) :=
  fun c hc => h c (List.mem_of_mem_take hc)

theorem drop (h : Numeral cs) (n : Nat) : Numeral (cs.drop n) :=
  fun c hc => h c (List.mem_of_mem_drop hc)

/-- The zeros that fill up a number. -/
theorem zeros (n : Nat) : Numeral (List.replicate n '0') := by
  intro c hc
  rw [List.eq_of_mem_replicate hc]
  rfl

/-- The digits of a number. -/
theorem toDigits (n : Nat) : Numeral (Nat.toDigits 10 n) := by
  intro c hc
  have hdigit := Nat.isDigit_of_mem_toDigits (by decide) (by decide) hc
  rw [isNumeral, hdigit, Bool.true_or]

end Numeral

/-! ## Integers -/

/-- A written integer that is not negative has its digits alone. -/
theorem toList_toString_ofNat (m : Nat) :
    (toString (Int.ofNat m)).toList = Nat.toDigits 10 m := by
  rw [Int.toString_eq_repr]
  exact Nat.toList_repr

/-- A negative one has a sign in front of them. -/
theorem toList_toString_negSucc (m : Nat) :
    (toString (Int.negSucc m)).toList = '-' :: Nat.toDigits 10 m.succ := by
  rw [Int.toString_eq_repr]
  show ("-" ++ m.succ.repr).toList = _
  rw [String.toList_append, Nat.toList_repr]
  rfl

/-- **A written integer.** -/
theorem isNumeral_toString (n : Int) : Numeral (toString n).toList := by
  cases n with
  | ofNat m =>
    rw [toList_toString_ofNat]
    exact .toDigits m
  | negSucc m =>
    rw [toList_toString_negSucc]
    exact .cons rfl (.toDigits m.succ)

/-- Digits tell their number. -/
theorem eq_of_toDigits_eq {m n : Nat}
    (h : Nat.toDigits 10 m = Nat.toDigits 10 n) : m = n := by
  rw [← @Nat.ofDigitChars_ten_toDigits m, h, Nat.ofDigitChars_ten_toDigits]

/-- No digits begin with a sign. -/
theorem toDigits_ne_sign_cons (m : Nat) (cs : List Char) :
    Nat.toDigits 10 m ≠ '-' :: cs := by
  intro h
  have hdigit : '-'.isDigit = true :=
    Nat.isDigit_of_mem_toDigits (by decide) (by decide)
      (h ▸ List.mem_cons_self ..)
  exact absurd hdigit (by decide)

/-- **A written integer tells which it is.** -/
theorem eq_of_toList_toString_eq {m n : Int}
    (h : (toString m).toList = (toString n).toList) : m = n := by
  cases m with
  | ofNat m =>
    rw [toList_toString_ofNat] at h
    cases n with
    | ofNat n =>
      rw [toList_toString_ofNat] at h
      rw [eq_of_toDigits_eq h]
    | negSucc n =>
      rw [toList_toString_negSucc] at h
      exact absurd h (toDigits_ne_sign_cons m _)
  | negSucc m =>
    rw [toList_toString_negSucc] at h
    cases n with
    | ofNat n =>
      rw [toList_toString_ofNat] at h
      exact absurd h.symm (toDigits_ne_sign_cons n _)
    | negSucc n =>
      rw [toList_toString_negSucc] at h
      have hsucc := eq_of_toDigits_eq (List.cons.inj h).2
      rw [Nat.succ.inj hsucc]

/-! ## Floating-point numbers -/

/-- A written exponent. -/
theorem DecimalStyle.isNumeral_exponentText (width : Nat) (e : Int) :
    Numeral (exponentText width e) := by
  refine .cons ?_ ((Numeral.zeros _).append (.toDigits _))
  split <;> rfl

/-- **A written decimal**, in any style. -/
theorem DecimalStyle.isNumeral_write (style : DecimalStyle) (d : Decimal) :
    Numeral (style.write d) := by
  have hdigits := Numeral.toDigits d.coefficient
  unfold write
  dsimp only
  split
  · -- Written out: before the point there is nothing, everything, or a part.
    split
    · exact .cons rfl (.cons rfl ((Numeral.zeros _).append hdigits))
    · split
      · exact (hdigits.append (.zeros _)).append
          (.cons rfl (.cons rfl .nil))
      · exact (hdigits.take _).append (.cons rfl (hdigits.drop _))
  · refine ((hdigits.take 1).append ?_).append
      (.cons rfl (isNumeral_exponentText _ _))
    split
    · exact .nil
    · exact .cons rfl (hdigits.drop 1)

/-- **A written floating-point number**, finite or not. -/
theorem Binary64.isNumeral_text (x : Binary64) : Numeral x.text.toList := by
  have hsign : Numeral (if x.negative then "-" else "").toList := by
    split
    · exact .cons rfl .nil
    · exact .nil
  unfold text
  split
  · exact .cons rfl (.cons rfl (.cons rfl .nil))
  · dsimp only
    split
    · rw [String.toList_append]
      exact hsign.append (.cons rfl (.cons rfl (.cons rfl .nil)))
    · split
      · rw [String.toList_append]
        exact hsign.append (.cons rfl (.cons rfl (.cons rfl .nil)))
      · rw [String.toList_append, String.toList_ofList]
        exact hsign.append (style.isNumeral_write _)

end DocFilter
