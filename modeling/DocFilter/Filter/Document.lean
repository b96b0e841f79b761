import DocFilter.Disjunction
import DocFilter.Filter.Field

/-!
# Filter documents

The script of a whole filter document, key by key. An `$and` with a list
is the scripts of its clauses one after another; an `$or` with a list is
one call with its written text; any other reserved key is skipped with
a note; every other key is a field.

A key has to be a text, or the search for the operator mark is the fault
that ends the script.
-/

namespace DocFilter

namespace Filter

/-- The script of an `$or`: its notes, then the call. -/
def orScript (clauses : List Value) : Script :=
  Script.tellAll (Disjunction.notes clauses)
    ++ Script.send (.or (.text (Disjunction.text clauses)))

/-- The script of a member that joins no clauses: a field, or a reserved
key to skip. -/
def otherScript (k : Key) (v : Value) : Script :=
  match k.hasMark with
  | .ok true => Script.tell (.skippedKey k)
  | .ok false => fieldScript k.toValue v
  | .error f => Trail.stop f

mutual

/-- **The script of the members of a document.** -/
def membersScript : List (Key × Value) → Script
  | [] => Trail.empty
  | (k, v) :: ms => memberScript k v ++ membersScript ms

/-- The script of one member. -/
def memberScript (k : Key) : Value → Script
  | .seq f cs =>
    match k.operator? with
    | some .and => clausesScript cs
    | some .or => orScript cs
    | _ => otherScript k (.seq f cs)
  | v => otherScript k v

/-- The script of the clauses of an `$and`. -/
def clausesScript : List Value → Script
  | [] => Trail.empty
  | c :: cs => clauseScript c ++ clausesScript cs

/-- The script of one clause of an `$and`. -/
def clauseScript : Value → Script
  | .doc ms => membersScript ms
  | v => Script.tell (.strayAndClause v)

end

/-- **The script of a filter**, which has to be a document. -/
def script (v : Value) : Script :=
  match v.members with
  | .ok ms => membersScript ms
  | .error f => Trail.stop f

end Filter

end DocFilter
