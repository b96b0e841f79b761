import DocFilter.Operator
import DocFilter.Value.Literal

/-!
# Conditions

What a field is filtered by. A document with at least one marked key is
an **operator document**, one test per member; any other value is a plain
one, which the field has to equal.
-/

namespace DocFilter

/-- **The condition on a field.** -/
inductive Condition where
  /-- The field equals a value. -/
  | plain (value : Value)
  /-- The field passes every test of an operator document. -/
  | operators (tests : List (Key × Value))
  deriving DecidableEq

/-- Whether a value is an operator document. -/
def Value.hasTests : Value → Bool
  | .doc ms => ms.any fun (k, _) => k.isMarked
  | _ => false

/-- **The condition a value states.** -/
def Value.condition : Value → Condition
  | .doc ms =>
    if ms.any fun (k, _) => k.isMarked then .operators ms
    else .plain (.doc ms)
  | v => .plain v

/-- The text a condition is shown by. -/
def Condition.text : Condition → String
  | .plain v => "Scalar(value=" ++ v.literal ++ ")"
  | .operators ms => "Operators(operators=" ++ (Value.doc ms).literal ++ ")"

/-- An atom is a plain condition. -/
@[simp] theorem Value.condition_atom (a : Atom) :
    (Value.atom a).condition = .plain (.atom a) := rfl

/-- A sequence is a plain condition. -/
@[simp] theorem Value.condition_seq (f : SeqForm) (vs : List Value) :
    (Value.seq f vs).condition = .plain (.seq f vs) := rfl

/-- A plain condition is on the value itself. -/
theorem Value.eq_of_condition_plain {v w : Value}
    (h : v.condition = .plain w) : w = v := by
  unfold Value.condition at h
  split at h
  · split at h <;> simp_all
  · simp_all

/-- The tests of a condition are the members of the value. -/
theorem Value.eq_of_condition_operators {v : Value} {ms : List (Key × Value)}
    (h : v.condition = .operators ms) : v = .doc ms := by
  unfold Value.condition at h
  split at h
  · split at h <;> simp_all
  · simp_all

end DocFilter
