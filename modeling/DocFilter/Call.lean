import DocFilter.Value.FilterText

/-!
# Calls and messages

A query is built by **calls** on a builder. The calls are those of the
builder contract, with arguments of any value. What a request receives is
a **message**: a method with its arguments in order and its options by
name.

A call has two spellings. In the **plain** one the message is the call. In
the **adapted** one it is what a PostgREST request understands: the text
of what `is_` tests for, a negation as a filter with a `not.` in front of
its operator, and an order by whether it descends.
-/

namespace DocFilter

/-- The comparisons of a column with an operand. -/
inductive Comparison where
  | eq | neq | gt | gte | lt | lte
  deriving DecidableEq

/-- **The calls of the builder contract.** -/
inductive Call where
  /-- The column compares with the operand. -/
  | compare (op : Comparison) (column operand : Value)
  /-- The column is one of the items. -/
  | isIn (column items : Value)
  /-- The column is nothing, true or false. -/
  | is (column value : Value)
  /-- The column does not pass a test. -/
  | not (column operator value : Value)
  /-- The column is like a pattern, in either case. -/
  | ilike (column pattern : Value)
  /-- One of several written filters holds. -/
  | or (filters : Value)
  /-- Rows come in the order of the column. -/
  | order (column ascending : Value)
  /-- At most so many rows. -/
  | limit (count : Value)
  /-- The rows between two positions. -/
  | range (first last : Value)
  /-- These columns. -/
  | select (columns : Value)
  deriving DecidableEq

/-- The methods of a request. -/
inductive Method where
  | compare (op : Comparison)
  | isIn | is | not | ilike | or | order | limit | range | select | filter
  deriving DecidableEq

/-- The name of a comparison. -/
def Comparison.name : Comparison → String
  | eq => "eq"
  | neq => "neq"
  | gt => "gt"
  | gte => "gte"
  | lt => "lt"
  | lte => "lte"

/-- The name of a method. -/
def Method.name : Method → String
  | compare op => op.name
  | isIn => "in_"
  | is => "is_"
  | not => "not_"
  | ilike => "ilike"
  | or => "or_"
  | order => "order"
  | limit => "limit"
  | range => "range"
  | select => "select"
  | filter => "filter"

/-- **What a request receives.** -/
structure Message where
  /-- The method. -/
  method : Method
  /-- The arguments, in order. -/
  args : List Value
  /-- The options, by name. -/
  options : List (String × Value)
  deriving DecidableEq

namespace Call

/-- **A call as it is.** Only the direction of an order has a name. -/
def plain : Call → Message
  | compare op c v => ⟨.compare op, [c, v], []⟩
  | isIn c vs => ⟨.isIn, [c, vs], []⟩
  | is c v => ⟨.is, [c, v], []⟩
  | not c op v => ⟨.not, [c, op, v], []⟩
  | ilike c p => ⟨.ilike, [c, p], []⟩
  | or fs => ⟨.or, [fs], []⟩
  | order c asc => ⟨.order, [c], [("ascending", asc)]⟩
  | limit n => ⟨.limit, [n], []⟩
  | range a b => ⟨.range, [a, b], []⟩
  | select cs => ⟨.select, [cs], []⟩

/-- **A call as a PostgREST request understands it.** -/
def adapted : Call → Message
  | is c v => ⟨.is, [c, .text v.filterText], []⟩
  | not c op v =>
    ⟨.filter, [c, .text ("not." ++ op.display), .text v.filterText], []⟩
  | order c asc => ⟨.order, [c], [("desc", .bool !asc.isTruthy)]⟩
  | call => call.plain

/-- The column a call is about, if it is about one. -/
def column? : Call → Option Value
  | compare _ c _ | isIn c _ | is c _ | not c _ _ | ilike c _ | order c _ =>
    some c
  | or _ | limit _ | range _ _ | select _ => none

end Call

end DocFilter
