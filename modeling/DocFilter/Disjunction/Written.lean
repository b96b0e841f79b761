import DocFilter.Disjunction
import DocFilter.Run
import DocFilter.Value.Digits

/-!
# Writing a disjunction

The text of an `$or` is written test by test, and each test that has no
written form is told as it is met. A fragment is made of the display of its
column and the filter text of its operand; where one of them has an integer
too long to be written, the writing ends there, and what was told before
stays told.

Without such an integer the text is `Disjunction.text`, and what is told is
`Disjunction.notes`.
-/

namespace DocFilter.Disjunction

variable (limit : DigitLimit)

/-- **Writes one test**, unless it has no written form. -/
def writeTest (column : Value) (tag : Key) (operand : Value) :
    Run (Option String) :=
  match write column tag operand with
  | .ok fragment =>
    Run.ofExcept (limit.guard [column, operand] (.ok (some fragment.text)))
  | .error n => (Run.tell n).andThen fun _ => Run.ok none

/-- **Writes the condition on a field.** -/
def writeField (column v : Value) : Run String :=
  match v.condition with
  | .plain v =>
    Run.ofExcept (limit.guard [column, v] (.ok (plain column v).text))
  | .operators tests =>
    (Run.each (fun (tag, operand) => writeTest limit column tag operand)
      tests).andThen fun fragments =>
        Run.ok (joinNonempty (fragments.filterMap id))

/-- **Writes a clause.** -/
def writeClause (ms : List (Key × Value)) : Run String :=
  (Run.each (fun (k, v) => writeField limit k.toValue v) ms).andThen
    fun fields => Run.ok (joinNonempty fields)

/-- Writes an element of an `$or`: nothing, unless it is a document. -/
def writeElement : Value → Run String
  | .doc ms => writeClause limit ms
  | v => (Run.tell (.strayOrClause v)).andThen fun _ => Run.ok ""

/-- **Writes an `$or`.** -/
def writeAll (clauses : List Value) : Run String :=
  (Run.each (writeElement limit) clauses).andThen
    fun elements => Run.ok (joinNonempty elements)

end DocFilter.Disjunction
