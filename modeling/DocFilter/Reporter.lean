import DocFilter.Report

/-!
# Reporters

A **reporter** reports on filters one after another. It walks a filter by
the rules of a report and puts each omission into a list where it meets it,
so a fault that ends the walk leaves the list with what was collected until
then.

Lists are known by their **places**. The reporter knows the place of the
list it collects into; what it hands out is the place of a copy, and whoever
has a place sees what is in the list now. For every filter a new list is
begun.
-/

namespace DocFilter

/-- **A reporter**, with every list it has begun or handed out. -/
structure Reporter where
  /-- The lists, in the order they were begun. -/
  lists : List (List Omission)
  /-- The place of the list that omissions are collected into. -/
  current : Nat
  /-- There is a list at this place. -/
  inUse : current < lists.length
  deriving DecidableEq

namespace Reporter

/-- A reporter that has reported on nothing. -/
def fresh : Reporter := ⟨[[]], 0, by decide⟩

/-- What is in the list at a place, if there is one. -/
def list? (r : Reporter) (place : Nat) : Option (List Omission) :=
  r.lists[place]?

/-- What was collected. -/
def collected (r : Reporter) : List Omission :=
  r.lists.get ⟨r.current, r.inUse⟩

/-- Begins a new list to collect into. -/
def newList (r : Reporter) : Reporter :=
  ⟨r.lists ++ [[]], r.lists.length, by simp⟩

/-- Collects one more omission. -/
def collect (r : Reporter) (o : Omission) : Reporter :=
  ⟨r.lists.modify r.current (· ++ [o]), r.current, by simpa using r.inUse⟩

/-- Hands out a copy of what was collected, by its place. -/
def handOut (r : Reporter) : Reporter × Nat :=
  (⟨r.lists ++ [r.collected], r.current, by
      rw [List.length_append]
      exact Nat.lt_add_right _ r.inUse⟩,
    r.lists.length)

/-! ## Walking a filter -/

/-- **A part of a walk**: the reporter after it, and the fault that ended
it, if one did. -/
abbrev Walk := Reporter → Reporter × Option Fault

/-- A walk past something that is not left out. -/
def pass : Walk := fun r => (r, none)

/-- A walk past a construct that is left out. -/
def drop (o : Omission) : Walk := fun r => (r.collect o, none)

/-- A walk that ends in a fault. -/
def stop (f : Fault) : Walk := fun r => (r, some f)

/-- **One part of a walk after another**, which is not begun after a
fault. -/
def Walk.andThen (w next : Walk) : Walk := fun r =>
  match w r with
  | (s, none) => next s
  | (s, some f) => (s, some f)

/-- Walks past the tests at one path. -/
def walkTests (reason? : Key → Value → Option Reason) (path : String) :
    List (Key × Value) → Walk
  | [] => pass
  | (tag, operand) :: ts =>
    Walk.andThen
      (match reason? tag operand with
        | some why => drop ⟨path, tag, why⟩
        | none => pass)
      (walkTests reason? path ts)

/-- Walks past the condition at one path. -/
def walkCondition (reason? : Key → Value → Option Reason) (path : String)
    (v : Value) : Walk :=
  match v.condition with
  | .plain _ => pass
  | .operators ts => walkTests reason? path ts

/-- Walks through a clause of an `$or`, with `stem` before each path. -/
def walkOrMembers (stem : String) : List (Key × Value) → Walk
  | [] => pass
  | (k, v) :: ms =>
    Walk.andThen
      (walkCondition Report.fragmentReason? (stem ++ k.display) v)
      (walkOrMembers stem ms)

/-- Walks through the clauses of an `$or`, from a position on. -/
def walkOrClauses (k : Key) (path : String) (position : Nat) :
    List Value → Walk
  | [] => pass
  | c :: cs =>
    let here := Report.clausePath path position
    Walk.andThen
      (match c with
        | .doc ms => walkOrMembers (here ++ ".") ms
        | _ => drop ⟨here, k, .needsDocument⟩)
      (walkOrClauses k path (position + 1) cs)

/-- Walks past a member that joins no clauses. -/
def walkOther (path : String) (k : Key) (v : Value) : Walk :=
  match k.hasMark with
  | .ok true => drop ⟨path, k, .noConnective⟩
  | .ok false => walkCondition Report.fieldReason? path v
  | .error f => stop f

mutual

/-- **Walks through the members of a document**, with `stem` before each
path. -/
def walkMembers (stem : String) : List (Key × Value) → Walk
  | [] => pass
  | (k, v) :: ms => Walk.andThen (walkMember stem k v) (walkMembers stem ms)

/-- Walks through one member. -/
def walkMember (stem : String) (k : Key) : Value → Walk
  | .seq f cs =>
    match k.operator? with
    | some .and => walkClauses k (stem ++ k.display) 0 cs
    | some .or => walkOrClauses k (stem ++ k.display) 0 cs
    | _ => walkOther (stem ++ k.display) k (.seq f cs)
  | v =>
    match k.operator? with
    | some .and | some .or => drop ⟨stem ++ k.display, k, .needsList⟩
    | _ => walkOther (stem ++ k.display) k v

/-- Walks through the clauses of an `$and`, from a position on. -/
def walkClauses (k : Key) (path : String) (position : Nat) :
    List Value → Walk
  | [] => pass
  | c :: cs =>
    Walk.andThen (walkClause k (Report.clausePath path position) c)
      (walkClauses k path (position + 1) cs)

/-- Walks through one clause of an `$and`. -/
def walkClause (k : Key) (path : String) : Value → Walk
  | .doc ms => walkMembers (path ++ ".") ms
  | _ => drop ⟨path, k, .needsDocument⟩

end

/-- **Walks through a filter**, which has to be a document. -/
def walkFilter (v : Value) : Walk :=
  match v.members with
  | .ok ms => walkMembers "" ms
  | .error f => stop f

/-! ## Reporting -/

/-- **Reports on a filter**: the reporter afterwards, and the place of the
omissions or the fault. -/
def reportOn (r : Reporter) (v : Value) : Reporter × Except Fault Nat :=
  match walkFilter v r.newList with
  | (s, none) => (s.handOut.1, .ok s.handOut.2)
  | (s, some f) => (s, .error f)

/-- Reports on filters one after another: the last reporter, and the
answers. -/
def reports (r : Reporter) :
    List Value → Reporter × List (Except Fault Nat)
  | [] => (r, [])
  | v :: vs =>
    let (s, answer) := r.reportOn v
    let (last, answers) := s.reports vs
    (last, answer :: answers)

/-- Reports on filters one after another, with the lists read at the end. -/
def reportAll (r : Reporter) (vs : List Value) :
    List (Except Fault (List Omission)) :=
  let (last, answers) := r.reports vs
  answers.map fun answer =>
    answer.map fun place => (last.list? place).getD []

end Reporter

end DocFilter
