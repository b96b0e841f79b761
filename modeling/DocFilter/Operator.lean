import DocFilter.Value.Elements

/-!
# Operators

The operators of the filter language, the tags they are written with, and
the mark `$` that sets a tag apart from a field name. A tag is looked up
by its text alone: a key that is no text is the tag of nothing.
-/

namespace DocFilter

/-- **The operators of the filter language.** -/
inductive Operator where
  /-- The field equals the operand. -/
  | eq
  /-- The field differs from the operand. -/
  | ne
  /-- The field is greater. -/
  | gt
  /-- The field is greater or equal. -/
  | gte
  /-- The field is less. -/
  | lt
  /-- The field is less or equal. -/
  | lte
  /-- The field is one of a list. -/
  | inList
  /-- The field is none of a list. -/
  | notInList
  /-- The field holds something. -/
  | present
  /-- The field matches a regular expression. -/
  | regex
  /-- All clauses hold. -/
  | and
  /-- Some clause holds. -/
  | or
  /-- A clause does not hold. -/
  | not
  /-- No clause holds. -/
  | nor
  deriving DecidableEq

namespace Operator

/-- **The tag of an operator.** -/
def tag : Operator → String
  | eq => "$eq"
  | ne => "$ne"
  | gt => "$gt"
  | gte => "$gte"
  | lt => "$lt"
  | lte => "$lte"
  | inList => "$in"
  | notInList => "$nin"
  | present => "$exists"
  | regex => "$regex"
  | and => "$and"
  | or => "$or"
  | not => "$not"
  | nor => "$nor"

/-- The name an operator is listed by. -/
def label : Operator → String
  | eq => "EQ"
  | ne => "NE"
  | gt => "GT"
  | gte => "GTE"
  | lt => "LT"
  | lte => "LTE"
  | inList => "IN"
  | notInList => "NIN"
  | present => "EXISTS"
  | regex => "REGEX"
  | and => "AND"
  | or => "OR"
  | not => "NOT"
  | nor => "NOR"

/-- All operators. -/
def all : List Operator :=
  [eq, ne, gt, gte, lt, lte, inList, notInList, present, regex,
   and, or, not, nor]

/-- Whether an operator joins documents rather than testing a field. -/
def joinsDocuments : Operator → Bool
  | and | or | not | nor => true
  | _ => false

/-- **The operator of a tag.** -/
def ofTag? (s : String) : Option Operator := all.find? fun o => o.tag == s

/-- Every operator is found by its tag. -/
@[simp] theorem ofTag?_tag (o : Operator) : ofTag? o.tag = some o := by
  cases o <;> rfl

/-- Only the tag of an operator finds it. -/
theorem tag_of_ofTag? {s : String} {o : Operator} (h : ofTag? s = some o) :
    o.tag = s := by
  simpa using List.find?_some h

end Operator

/-- The operator a key is the tag of. -/
def Key.operator? : Key → Option Operator
  | .text s => Operator.ofTag? s
  | _ => none

@[simp] theorem Key.operator?_text (s : String) :
    (Key.text s).operator? = Operator.ofTag? s := rfl

/-- Only the text of its tag finds an operator. -/
theorem Key.eq_text_of_operator? {k : Key} {op : Operator}
    (h : k.operator? = some op) : k = .text op.tag := by
  unfold Key.operator? at h
  split at h
  · rw [Operator.tag_of_ofTag? h]
  · exact absurd h (Option.some_ne_none op).symm

/-- **The operator a value is the tag of**, with a fault for a value that
cannot be looked up. -/
def Value.operator? (v : Value) : Except Fault (Option Operator) :=
  v.toKey.map Key.operator?

/-! ## The mark -/

/-- **Whether a text begins with the operator mark.** -/
def isMarked (s : String) : Bool := s.toList.head? == some '$'

/-- Every tag is marked. -/
@[simp] theorem isMarked_tag (o : Operator) : isMarked o.tag = true := by
  cases o <;> decide

/-- Whether a key is a marked text. -/
def Key.isMarked : Key → Bool
  | .text s => DocFilter.isMarked s
  | _ => false

/-- **Whether a value is reserved**, that is, begins with the operator
mark. The mark is a text: it can be looked for in a text alone. -/
def Value.hasMark : Value → Except Fault Bool
  | .text s => .ok (isMarked s)
  | .bytes _ => .error .markInBytes
  | v => .error (.notMarkable v.kind)

/-- Whether a key is reserved. -/
def Key.hasMark (k : Key) : Except Fault Bool := k.toValue.hasMark

@[simp] theorem Key.isReserved_text (s : String) :
    (Key.text s).hasMark = .ok (DocFilter.isMarked s) := rfl

end DocFilter
