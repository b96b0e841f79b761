import DocFilter.Cursor
import DocFilter.Search

/-!
# Sessions

A session is the cursors that were opened, in order, each with the builder
it has got to. Binding a search adds a cursor; an operation moves the one
it names, if all of its calls go through, and else leaves it where it was.
-/

namespace DocFilter

/-- **The cursors of a session**, each by its builder. -/
structure Session where
  /-- The builders, in the order the cursors were opened. -/
  builders : List Builder
  deriving DecidableEq

namespace Session

/-- **What can be done in a session.** -/
inductive Action where
  /-- A search is bound to a resource of a backend. -/
  | bind (search : Search) (backend : Backend) (resource projection : Value)
  /-- A cursor does an operation. -/
  | operate (cursor : Nat) (op : CursorOp)
  /-- A cursor shows its builder, asked for the query or for all rows: neither
  runs it. -/
  | read (cursor : Nat)

/-- **What a session answers.** -/
inductive Answer where
  /-- A cursor was opened, at a builder. -/
  | opened (cursor : Nat) (builder : Builder)
  /-- The builder a cursor has now. -/
  | current (builder : Builder)
  /-- There is no such cursor. -/
  | noCursor
  deriving DecidableEq

/-- A session without cursors. -/
def start : Session := ⟨[]⟩

/-- The builder of a cursor. -/
def builder? (s : Session) (cursor : Nat) : Option Builder :=
  s.builders[cursor]?

/-- **One action in a session**: the session after it, and what
happened. -/
def step (refuses : Refusals) (s : Session) :
    Action → Session × Run Answer
  | .bind search backend resource projection =>
    let r := search.bindTo refuses backend resource projection
    (match r.result with
      | .ok b => ⟨s.builders ++ [b]⟩
      | .error _ => s,
      r.andThen fun b => Run.ok (.opened s.builders.length b))
  | .operate cursor op =>
    match s.builder? cursor with
    | none => (s, Run.ok .noCursor)
    | some b =>
      let r := op.script.run refuses b
      (match r.result with
        | .ok b => ⟨s.builders.set cursor b⟩
        | .error _ => s,
        r.andThen fun b => Run.ok (.current b))
  | .read cursor =>
    match s.builder? cursor with
    | none => (s, Run.ok .noCursor)
    | some b => (s, Run.ok (.current b))

/-- Actions one after another: the last session, and what happened at
each. -/
def steps (refuses : Refusals) (s : Session) :
    List Action → Session × List (Run Answer)
  | [] => (s, [])
  | a :: as =>
    let (s, r) := step refuses s a
    let (s, rs) := steps refuses s as
    (s, r :: rs)

end Session

end DocFilter
