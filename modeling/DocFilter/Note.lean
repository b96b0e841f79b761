import DocFilter.Value.Literal

/-!
# Notes

What an operation tells beside its result: which constructs of a filter
it leaves out, and what it connects to. A note is a record of the fact;
its wording and the channel it goes to are read off it.
-/

namespace DocFilter

/-- The parts of the library that leave notes. -/
inductive Channel where
  | filter | disjunction | search | backend
  deriving DecidableEq

/-- **A note.** -/
inductive Note where
  /-- A field test that no call stands for. -/
  | noCall (tag : Key) (column : Value)
  /-- A membership test without a list. -/
  | inWithoutList (column : Value)
  /-- A test for absence from a list, without a list. -/
  | notInWithoutList (column : Value)
  /-- A clause of an `$and` that is no document. -/
  | strayAndClause (clause : Value)
  /-- A reserved key that joins no documents. -/
  | skippedKey (key : Key)
  /-- A test in an `$or` that has no written form. -/
  | notWritten (tag : Key) (column : Value)
  /-- A membership test in an `$or`, without a list. -/
  | writtenInWithoutList (column : Value)
  /-- A clause of an `$or` that is no document. -/
  | strayOrClause (clause : Value)
  /-- A search is bound to a resource. -/
  | binding (resource : Value) (columns : String)
  /-- A client is put into an adapter. -/
  | wrapping (typeName : String)
  /-- A client is created. -/
  | creating (url schema : Value)
  deriving DecidableEq

namespace Note

/-- The channel a note goes to. -/
def channel : Note → Channel
  | noCall .. | inWithoutList _ | notInWithoutList _ | strayAndClause _
  | skippedKey _ => .filter
  | notWritten .. | writtenInWithoutList _ | strayOrClause _ => .disjunction
  | binding .. => .search
  | wrapping _ | creating .. => .backend

/-- **The text of a note.** -/
def message : Note → String
  | noCall tag c =>
    "Dropping unsupported operator " ++ tag.display ++ " on " ++ c.literal
  | inWithoutList c =>
    "Dropping $in on " ++ c.literal ++ ": operand is not a list"
  | notInWithoutList c =>
    "Dropping $nin on " ++ c.literal ++ ": operand is not a list"
  | strayAndClause v => "Dropping non-document $and clause: " ++ v.literal
  | skippedKey k => "Skipping unsupported logical key " ++ k.display
  | notWritten tag c =>
    "Dropping " ++ tag.display ++ " on " ++ c.literal
      ++ " inside $or: no composite encoding"
  | writtenInWithoutList c =>
    "Dropping $in on " ++ c.literal
      ++ " inside $or: operand is not a list"
  | strayOrClause v => "Dropping non-document $or clause: " ++ v.literal
  | binding resource columns =>
    "Binding query on " ++ resource.display ++ " (select=" ++ columns ++ ")"
  | wrapping typeName => "Wrapping " ++ typeName ++ " in PostgrestStore"
  | creating url schema =>
    "Creating PostgREST store for " ++ url.display ++ " (schema="
      ++ schema.display ++ ")"

end Note

end DocFilter
