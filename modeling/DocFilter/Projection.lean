import DocFilter.Value.Elements
import DocFilter.Value.Equality

/-!
# Projections

Which columns a query asks for, as one text. A projection is a text as it
is, a sequence of columns, or a document that says of each column whether
to include it; nothing at all asks for every column.
-/

namespace DocFilter

namespace Projection

/-- The text that asks for every column. -/
def everything : String := "*"

/-- Column names, from a position on. The first value that is no text is
the fault. -/
def names (position : Nat) : List Value → Except Fault (List String)
  | [] => .ok []
  | .text s :: vs => (names (position + 1) vs).map (s :: ·)
  | v :: _ => .error (.notColumn position v.kind)

/-- Column names joined by commas. -/
def join (vs : List Value) : Except Fault String :=
  (names 0 vs).map (",".intercalate ·)

/-- The columns that a document includes: those whose value equals one. -/
def included (ms : List (Key × Value)) : List Value :=
  (ms.filter fun (_, v) => v.isOne).map fun (k, _) => k.toValue

/-- Every column in place of an empty text. -/
def orEverything (s : String) : String := if s = "" then everything else s

/-- **The columns a projection asks for.** -/
def columns (v : Value) : Except Fault String :=
  if !v.isTruthy then .ok everything
  else
    match v with
    | .text s => .ok s
    | .doc ms => (join (included ms)).map orEverything
    | v =>
      match v.elements with
      | .ok vs => join vs
      | .error _ => .error .notProjection

end Projection

end DocFilter
