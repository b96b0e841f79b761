import DocFilter.Value.Basic

/-!
# Equality by value

Equality of values as comparisons see it, which is wider than being the
same value: the truth values are the numbers `1` and `0`, a number equals
any number of the same size, and a document equals another with the same
members in any order. It is narrower in one place: a NaN equals nothing.
A list never equals a tuple.
-/

namespace DocFilter

/-- The integer an atom is; a truth value is `1` or `0`. -/
def Atom.integer? : Atom → Option Int
  | .bool true => some 1
  | .bool false => some 0
  | .int n => some n
  | _ => none

/-- **Equality of atoms.** An integer equals a float that stands for
exactly that integer. -/
def Atom.equals (a b : Atom) : Bool :=
  match a.integer?, b.integer?, a, b with
  | some m, some n, _, _ => m == n
  | some m, none, _, .float y => y.integer? == some m
  | none, some n, .float x, _ => x.integer? == some n
  | _, _, .float x, .float y => x.sameNumber y
  | _, _, a, b => a == b

mutual

/-- Equality of keys. -/
def Key.equals : Key → Key → Bool
  | .atom a, .atom b => a.equals b
  | .tuple ks, .tuple ls => Key.allEqual ks ls
  | _, _ => false

/-- Equality of tuples of keys, place by place. -/
def Key.allEqual : List Key → List Key → Bool
  | [], [] => true
  | k :: ks, l :: ls => k.equals l && Key.allEqual ks ls
  | _, _ => false

end

mutual

/-- **Equality of values.** -/
def Value.equals : Value → Value → Bool
  | .atom a, .atom b => a.equals b
  | .seq f vs, .seq g ws => f == g && Value.allEqual vs ws
  | .doc ms, .doc ns => ms.length == ns.length && Value.allFound ms ns
  | _, _ => false

/-- Equality of sequences, place by place. -/
def Value.allEqual : List Value → List Value → Bool
  | [], [] => true
  | v :: vs, w :: ws => v.equals w && Value.allEqual vs ws
  | _, _ => false

/-- Whether every member of one document is a member of another. -/
def Value.allFound : List (Key × Value) → List (Key × Value) → Bool
  | [], _ => true
  | (k, v) :: ms, ns =>
    (match ns.find? fun (l, _) => k.equals l with
      | some (_, w) => v.equals w
      | none => false)
    && Value.allFound ms ns

end

/-- **Whether a value equals one**: the integer, the truth value and the
float do. -/
def Value.isOne (v : Value) : Bool := v.equals (.int 1)

@[simp] theorem Value.isOne_int (n : Int) :
    (Value.int n).isOne = (n == 1) := rfl

@[simp] theorem Value.isOne_bool (b : Bool) : (Value.bool b).isOne = b := by
  cases b <;> rfl

@[simp] theorem Value.isOne_text (s : String) :
    (Value.text s).isOne = false := rfl

end DocFilter
