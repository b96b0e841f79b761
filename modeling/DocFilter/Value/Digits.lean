import DocFilter.Fault
import DocFilter.Value.FilterText

/-!
# Digits

An integer may have any number of digits, but only so many of them are
written. A text that is made of a value is a fault where an integer in the
value has more digits than the **limit** – any integer in it, and a key of a
document like any other. The literal, the display and the filter text of a
value are what is written where the limit is lifted.

A float is written by its shortest digits, and as an integer it has fewer
digits than the lowest limit; so it is never in the way.
-/

namespace DocFilter

/-- **How many digits of an integer are written.** With zero the limit is
lifted; any other has a least value. -/
structure DigitLimit where
  digits : Nat
  valid : digits = 0 ∨ 640 ≤ digits

namespace DigitLimit

/-- The usual limit. -/
def usual : DigitLimit := ⟨4300, .inr (by decide)⟩

/-- No limit. -/
def lifted : DigitLimit := ⟨0, .inl rfl⟩

/-- **Whether an integer is written.** The sign is no digit. -/
def admits (limit : DigitLimit) (n : Int) : Bool :=
  limit.digits == 0 || n.natAbs < Nat.pow 10 limit.digits

@[simp] theorem admits_lifted (n : Int) : lifted.admits n = true := rfl

end DigitLimit

/-! ## Values whose integers fit -/

/-- Whether an atom is no integer or one that is written. -/
def Atom.fits (limit : DigitLimit) : Atom → Bool
  | .int n => limit.admits n
  | _ => true

mutual

/-- Whether all integers of a key are written. -/
def Key.fits (limit : DigitLimit) : Key → Bool
  | .atom a => a.fits limit
  | .tuple ks => Key.allFit limit ks

/-- Whether all integers of some keys are written. -/
def Key.allFit (limit : DigitLimit) : List Key → Bool
  | [] => true
  | k :: ks => k.fits limit && Key.allFit limit ks

end

mutual

/-- **Whether all integers of a value are written**, those of keys
included. -/
def Value.fits (limit : DigitLimit) : Value → Bool
  | .atom a => a.fits limit
  | .seq _ vs => Value.allFit limit vs
  | .doc ms => Value.membersFit limit ms

/-- Whether all integers of some values are written. -/
def Value.allFit (limit : DigitLimit) : List Value → Bool
  | [] => true
  | v :: vs => v.fits limit && Value.allFit limit vs

/-- Whether all integers of some members are written. -/
def Value.membersFit (limit : DigitLimit) : List (Key × Value) → Bool
  | [] => true
  | (k, v) :: ms => k.fits limit && v.fits limit && Value.membersFit limit ms

end

theorem Key.allFit_eq_all (limit : DigitLimit) (ks : List Key) :
    Key.allFit limit ks = ks.all (Key.fits limit) := by
  induction ks with
  | nil => rfl
  | cons k ks ih => rw [Key.allFit, ih, List.all_cons]

theorem Value.allFit_eq_all (limit : DigitLimit) (vs : List Value) :
    Value.allFit limit vs = vs.all (Value.fits limit) := by
  induction vs with
  | nil => rfl
  | cons v vs ih => rw [Value.allFit, ih, List.all_cons]

theorem Value.membersFit_eq_all (limit : DigitLimit)
    (ms : List (Key × Value)) :
    Value.membersFit limit ms
      = ms.all fun m => m.1.fits limit && m.2.fits limit := by
  induction ms with
  | nil => rfl
  | cons m ms ih => rw [Value.membersFit, ih, List.all_cons]

/-- Where a list fits, each of its values does. -/
theorem Value.fits_of_mem {limit : DigitLimit} {vs : List Value} {v : Value}
    (h : Value.allFit limit vs = true) (hv : v ∈ vs) :
    v.fits limit = true := by
  rw [Value.allFit_eq_all, List.all_eq_true] at h
  exact h v hv

/-- Where a document fits, so do the key and the value of each member. -/
theorem Value.fits_of_member {limit : DigitLimit} {ms : List (Key × Value)}
    {m : Key × Value} (h : (Value.doc ms).fits limit = true) (hm : m ∈ ms) :
    m.1.fits limit = true ∧ m.2.fits limit = true := by
  rw [Value.fits, Value.membersFit_eq_all, List.all_eq_true] at h
  exact Bool.and_eq_true_iff.mp (h m hm)

mutual

/-- A key fits as its value does. -/
theorem Key.fits_toValue (limit : DigitLimit) : (k : Key) →
    k.toValue.fits limit = k.fits limit
  | .atom _ => rfl
  | .tuple ks => Key.allFit_toValues limit ks

/-- Keys fit as their values do. -/
theorem Key.allFit_toValues (limit : DigitLimit) : (ks : List Key) →
    Value.allFit limit (Key.toValues ks) = Key.allFit limit ks
  | [] => rfl
  | k :: ks => by
    rw [Key.toValues, Value.allFit, Key.allFit, Key.fits_toValue limit k,
      Key.allFit_toValues limit ks]

end

/-! ## Without a limit -/

/-- Where the limit is lifted, every atom fits. -/
theorem Atom.fits_lifted (a : Atom) : a.fits .lifted = true := by
  cases a <;> rfl

mutual

/-- Where the limit is lifted, every key fits. -/
theorem Key.fits_lifted : (k : Key) → k.fits .lifted = true
  | .atom a => a.fits_lifted
  | .tuple ks => Key.allFit_lifted ks

theorem Key.allFit_lifted : (ks : List Key) → Key.allFit .lifted ks = true
  | [] => rfl
  | k :: ks => by
    rw [Key.allFit, Key.fits_lifted k, Key.allFit_lifted ks, Bool.and_true]

end

mutual

/-- **Where the limit is lifted, every value fits.** -/
theorem Value.fits_lifted : (v : Value) → v.fits .lifted = true
  | .atom a => a.fits_lifted
  | .seq _ vs => Value.allFit_lifted vs
  | .doc ms => Value.membersFit_lifted ms

theorem Value.allFit_lifted : (vs : List Value) →
    Value.allFit .lifted vs = true
  | [] => rfl
  | v :: vs => by
    rw [Value.allFit, Value.fits_lifted v, Value.allFit_lifted vs,
      Bool.and_true]

theorem Value.membersFit_lifted : (ms : List (Key × Value)) →
    Value.membersFit .lifted ms = true
  | [] => rfl
  | (k, v) :: ms => by
    rw [Value.membersFit, Key.fits_lifted k, Value.fits_lifted v,
      Value.membersFit_lifted ms, Bool.and_true, Bool.and_true]

end

/-! ## Texts within the limit -/

namespace DigitLimit

/-- The fault of making a text of values that do not fit. -/
def fault (limit : DigitLimit) : Fault := .tooManyDigits limit.digits

/-- **What is made of the texts of some values**, if they fit. -/
def guard {α : Type} (limit : DigitLimit) (vs : List Value)
    (made : Except Fault α) : Except Fault α :=
  if Value.allFit limit vs then made else .error limit.fault

section Guard

variable {α : Type} {limit : DigitLimit} {vs : List Value}

theorem guard_of_fit (h : Value.allFit limit vs = true)
    (made : Except Fault α) : limit.guard vs made = made := if_pos h

theorem guard_of_not_fit (h : Value.allFit limit vs = false)
    (made : Except Fault α) : limit.guard vs made = .error limit.fault :=
  if_neg (h ▸ Bool.false_ne_true)

end Guard

end DigitLimit

namespace Value

/-- **The filter text of a value within the limit.** -/
def filterTextWithin (limit : DigitLimit) (v : Value) :
    Except Fault String :=
  limit.guard [v] (.ok v.filterText)

/-- **A written list within the limit.** -/
def listTextWithin (limit : DigitLimit) (quoted : Bool)
    (items : List Value) : Except Fault String :=
  limit.guard items (.ok (listText quoted items))

end Value

end DocFilter
