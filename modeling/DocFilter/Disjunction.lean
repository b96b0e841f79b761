import DocFilter.Condition
import DocFilter.Note
import DocFilter.Value.FilterText

/-!
# Disjunctions

A builder has no call that joins others by *or*, so an `$or` is written as
one text and handed over whole. Each test becomes a **fragment**
`column.name.operand`, and fragments are joined by commas – first those of
a field, then the fields of a clause, then the clauses. A part without any
fragment leaves no comma behind.

Not every test has a written form. `Disjunction.write` gives for each test
either its fragment or the note that it is left out, and the three lists
of outcomes say the same for a field, a clause and a whole `$or`. Inside a
clause every key is a column: no key is reserved there.
-/

namespace DocFilter

/-- **A written test**: a column, the name of a test and its operand. -/
structure Fragment where
  /-- The column. -/
  column : Value
  /-- The name of the test. -/
  name : String
  /-- The text of the operand. -/
  operand : String
  deriving DecidableEq

/-- The text of a fragment: its three parts between dots. -/
def Fragment.text (f : Fragment) : String :=
  f.column.display ++ "." ++ f.name ++ "." ++ f.operand

namespace Disjunction

/-- The name a test is written by, if it has a written form. -/
def name? : Operator → Option String
  | .eq => some "eq"
  | .ne => some "neq"
  | .gt => some "gt"
  | .gte => some "gte"
  | .lt => some "lt"
  | .lte => some "lte"
  | .inList => some "in"
  | _ => none

/-- **The outcome of one test**: its fragment, or the note that it is
left out. A membership test needs a list. -/
def write (column : Value) (tag : Key) (operand : Value) :
    Except Note Fragment :=
  match tag.operator? with
  | some .inList =>
    match operand with
    | .seq _ vs => .ok ⟨column, "in", Value.listText false vs⟩
    | _ => .error (.writtenInWithoutList column)
  | some op =>
    match name? op with
    | some name => .ok ⟨column, name, operand.filterText⟩
    | none => .error (.notWritten tag column)
  | none => .error (.notWritten tag column)

/-- The fragment of a plain value: the column is nothing, or it equals the
value. -/
def plain (column : Value) : Value → Fragment
  | .null => ⟨column, "is", "null"⟩
  | v => ⟨column, "eq", v.filterText⟩

/-- The outcomes of the tests on a field. -/
def fieldOutcomes (column v : Value) : List (Except Note Fragment) :=
  match v.condition with
  | .plain v => [.ok (plain column v)]
  | .operators tests => tests.map fun (tag, operand) =>
    write column tag operand

/-- The outcomes of the tests in a clause. -/
def clauseOutcomes (ms : List (Key × Value)) : List (Except Note Fragment) :=
  ms.flatMap fun (k, v) => fieldOutcomes k.toValue v

/-- The outcomes of the tests in an element of an `$or`. An element that
is no document is left out. -/
def elementOutcomes : Value → List (Except Note Fragment)
  | .doc ms => clauseOutcomes ms
  | v => [.error (.strayOrClause v)]

/-- **The outcomes of the tests in an `$or`.** -/
def outcomes (clauses : List Value) : List (Except Note Fragment) :=
  clauses.flatMap elementOutcomes

/-- The fragments among some outcomes. -/
def fragmentsOf (os : List (Except Note Fragment)) : List Fragment :=
  os.filterMap fun
    | .ok f => some f
    | .error _ => none

/-- The notes among some outcomes. -/
def notesOf (os : List (Except Note Fragment)) : List Note :=
  os.filterMap fun
    | .ok _ => none
    | .error n => some n

/-! ## The text -/

/-- Texts joined by commas, the empty ones left out. -/
def joinNonempty (parts : List String) : String :=
  ",".intercalate (parts.filter (· != ""))

/-- The text of a field. -/
def fieldText (column v : Value) : String :=
  joinNonempty ((fragmentsOf (fieldOutcomes column v)).map Fragment.text)

/-- The text of a clause. -/
def clauseText (ms : List (Key × Value)) : String :=
  joinNonempty (ms.map fun (k, v) => fieldText k.toValue v)

/-- The text of an element of an `$or`: none, unless it is a document. -/
def elementText : Value → String
  | .doc ms => clauseText ms
  | _ => ""

/-- **The text of an `$or`.** -/
def text (clauses : List Value) : String :=
  joinNonempty (clauses.map elementText)

/-- The notes of an `$or`. -/
def notes (clauses : List Value) : List Note := notesOf (outcomes clauses)

/-- The fragments of an `$or`, in one list. -/
def fragments (clauses : List Value) : List Fragment :=
  fragmentsOf (outcomes clauses)

end Disjunction

end DocFilter
