import DocFilter.Builder
import DocFilter.Disjunction.Written
import DocFilter.Filter.Field
import DocFilter.SortOrder

/-!
# Filters applied to a builder

A filter is applied to a builder by making its calls one after another, each
on the builder that the call before it gave. A construct that no call stands
for is told and leaves the builder as it is. The builder that a document
gives is the one that its last call gave, or the one it was applied to.

Here the builder is handed on through the walk itself; a `Script` is the same
walk without one. Some calls hold a text – the list of a `$nin`, the pattern
of a `$regex`, a written `$or` – and where it cannot be written within the
limit on digits, the walk ends in front of the call.
-/

namespace DocFilter.Builder

section Fields

variable (limit : DigitLimit) (refuses : Refusals)

/-- The same builder, with a note. -/
def told (b : Builder) (n : Note) : Run Builder :=
  (Run.tell n).andThen fun _ => Run.ok b

/-- **Applies one test on a field.** -/
def applyTest (b : Builder) (column : Value) (tag : Key) (operand : Value) :
    Run Builder :=
  match tag.operator? with
  | some .eq => b.call refuses (Filter.equality column operand)
  | some .ne => b.call refuses (Filter.difference column operand)
  | some .gt => b.call refuses (.compare .gt column operand)
  | some .gte => b.call refuses (.compare .gte column operand)
  | some .lt => b.call refuses (.compare .lt column operand)
  | some .lte => b.call refuses (.compare .lte column operand)
  | some .inList =>
    match operand with
    | .seq _ vs => b.call refuses (.isIn column (.list vs))
    | _ => b.told (.inWithoutList column)
  | some .notInList =>
    match operand with
    | .seq _ vs =>
      (Run.ofExcept (Value.listTextWithin limit true vs)).andThen fun items =>
        b.call refuses (.not column (.text "in") (.text items))
    | _ => b.told (.notInWithoutList column)
  | some .regex =>
    (Run.ofExcept (operand.likePatternWithin limit)).andThen fun p =>
      b.call refuses (.ilike column (.text (LikePattern.anywhere p)))
  | some .present =>
    b.call refuses (Filter.presence column operand.isTruthy)
  | _ => b.told (.noCall tag column)

/-- Applies the tests on a field. -/
def applyTests (b : Builder) (column : Value) :
    List (Key × Value) → Run Builder
  | [] => Run.ok b
  | (tag, operand) :: tests =>
    (applyTest limit refuses b column tag operand).andThen fun b =>
      applyTests b column tests

/-- **Applies the condition on a field.** -/
def applyField (b : Builder) (column v : Value) : Run Builder :=
  match v.condition with
  | .plain v => b.call refuses (Filter.equality column v)
  | .operators tests => applyTests limit refuses b column tests

end Fields

section Documents

variable (limit : DigitLimit) (refuses : Refusals)

/-- Applies an `$or`: one call, with its written text. -/
def applyOr (b : Builder) (clauses : List Value) : Run Builder :=
  (Disjunction.writeAll limit clauses).andThen fun text =>
    b.call refuses (.or (.text text))

/-- Applies a member that joins no clauses. -/
def applyOther (b : Builder) (k : Key) (v : Value) : Run Builder :=
  match k.hasMark with
  | .ok true => b.told (.skippedKey k)
  | .ok false => applyField limit refuses b k.toValue v
  | .error f => Run.fail f

mutual

/-- **Applies the members of a document**, one after another. -/
def applyMembers (b : Builder) : List (Key × Value) → Run Builder
  | [] => Run.ok b
  | (k, v) :: ms =>
    (applyMember b k v).andThen fun b => applyMembers b ms

/-- Applies one member. -/
def applyMember (b : Builder) (k : Key) : Value → Run Builder
  | .seq f cs =>
    match k.operator? with
    | some .and => applyClauses b cs
    | some .or => applyOr limit refuses b cs
    | _ => applyOther limit refuses b k (.seq f cs)
  | v => applyOther limit refuses b k v

/-- Applies the clauses of an `$and`. -/
def applyClauses (b : Builder) : List Value → Run Builder
  | [] => Run.ok b
  | c :: cs => (applyClause b c).andThen fun b => applyClauses b cs

/-- Applies one clause of an `$and`. -/
def applyClause (b : Builder) : Value → Run Builder
  | .doc ms => applyMembers b ms
  | v => b.told (.strayAndClause v)

end

/-- **Applies a filter**, which has to be a document. -/
def applyFilter (b : Builder) (v : Value) : Run Builder :=
  match v.members with
  | .ok ms => applyMembers limit refuses b ms
  | .error f => Run.fail f

end Documents

section Orders

variable (refuses : Refusals)

/-- Orders the rows by some columns, the first column first. -/
def applyColumns (b : Builder) : List (Key × Value) → Run Builder
  | [] => Run.ok b
  | (k, direction) :: ms =>
    (b.call refuses
      (.order k.toValue (.bool (SortOrder.ascends direction)))).andThen
        fun b => applyColumns b ms

/-- **Applies a sort order**, which has to be a document. -/
def applyOrder (b : Builder) (v : Value) : Run Builder :=
  match v.members with
  | .ok ms => applyColumns refuses b ms
  | .error f => Run.fail f

end Orders

end DocFilter.Builder
