import DocFilter.Report

/-!
# The keys a walk meets

Every walk of a filter looks for the operator mark in the keys it meets:
those of the document and, where an `$and` holds a list, those of the
documents in it – not those inside an `$or`, nor those of an operator
document, nor those of a value. `Filter.keys` lists them in order.

A report looks at nothing else that could stop it, so it ends in the fault
of the first of these keys that is no text, and in none if all of them are
texts (`Report.fault_members`).
-/

namespace DocFilter

/-- Why the mark cannot be looked for in a key, if it cannot. -/
def Key.markFault? (k : Key) : Option Fault :=
  match k.hasMark with
  | .ok _ => none
  | .error f => some f

namespace Filter

mutual

/-- **The keys that a walk of the members of a document meets.** -/
def keys : List (Key × Value) → List Key
  | [] => []
  | (k, v) :: ms => k :: (memberKeys k v ++ keys ms)

/-- The keys inside one member: those of the elements, if it is an `$and`
with a list. -/
def memberKeys (k : Key) : Value → List Key
  | .seq _ cs =>
    match k.operator? with
    | some .and => clausesKeys cs
    | _ => []
  | _ => []

/-- The keys of the elements of an `$and`. -/
def clausesKeys : List Value → List Key
  | [] => []
  | c :: cs => clauseKeys c ++ clausesKeys cs

/-- The keys of one element. -/
def clauseKeys : Value → List Key
  | .doc ms => keys ms
  | _ => []

end

end Filter

namespace Report

/-- A member that joins no clauses is stopped by its key alone. -/
theorem fault_other (path : String) (k : Key) (v : Value) :
    (other path k v).fault = k.markFault? := by
  unfold other Key.markFault?
  cases k.hasMark with
  | error f => rfl
  | ok marked => cases marked <;> rfl

/-- A member with a value that is no list is stopped by its key alone. -/
theorem fault_of_not_seq (path : String) (k : Key) (v : Value) :
    (match k.operator? with
      | some .and | some .or => Trail.one ⟨path, k, .needsList⟩
      | _ => other path k v : Report).fault = k.markFault? := by
  cases h : k.operator? with
  | none => exact fault_other path k v
  | some op =>
    cases op with
    | and | or =>
      obtain rfl := Key.eq_text_of_operator? h
      rfl
    | _ => exact fault_other path k v

mutual

/-- **A report ends in the fault of the first key it meets** in which the
mark cannot be looked for. -/
theorem fault_members (stem : String) : (ms : List (Key × Value)) →
    (members stem ms).fault = (Filter.keys ms).findSome? Key.markFault?
  | [] => rfl
  | (k, v) :: ms => by
    rw [members, Trail.fault_append, fault_member stem k v,
      fault_members stem ms, Filter.keys, ← List.cons_append,
      List.findSome?_append]

theorem fault_member (stem : String) (k : Key) : (v : Value) →
    (member stem k v).fault
      = (k :: Filter.memberKeys k v).findSome? Key.markFault?
  | .seq f cs => by
    unfold member Filter.memberKeys
    rw [List.findSome?_cons]
    cases h : k.operator? with
    | none =>
      dsimp only
      rw [fault_other]
      cases k.markFault? <;> rfl
    | some op =>
      cases op with
      | and =>
        obtain rfl := Key.eq_text_of_operator? h
        exact fault_clauses _ _ 0 cs
      | or =>
        obtain rfl := Key.eq_text_of_operator? h
        rfl
      | _ =>
        dsimp only
        rw [fault_other]
        cases k.markFault? <;> rfl
  | .atom a =>
    (fault_of_not_seq _ k (.atom a)).trans List.findSome?_singleton.symm
  | .doc ms =>
    (fault_of_not_seq _ k (.doc ms)).trans List.findSome?_singleton.symm

theorem fault_clauses (k : Key) (path : String) (position : Nat) :
    (cs : List Value) →
    (clauses k path position cs).fault
      = (Filter.clausesKeys cs).findSome? Key.markFault?
  | [] => rfl
  | c :: cs => by
    rw [clauses, Trail.fault_append, fault_clause k _ c,
      fault_clauses k path (position + 1) cs, Filter.clausesKeys,
      List.findSome?_append]

theorem fault_clause (k : Key) (path : String) : (c : Value) →
    (clause k path c).fault
      = (Filter.clauseKeys c).findSome? Key.markFault?
  | .doc ms => fault_members (path ++ ".") ms
  | .atom _ => rfl
  | .seq _ _ => rfl

end

/-- A report on a document whose keys are texts ends in no fault. -/
theorem fault_eq_none_of_texts {ms : List (Key × Value)}
    (h : ∀ k ∈ Filter.keys ms, k.text?.isSome = true) :
    (ofFilter (.doc ms)).fault = none := by
  show (members "" ms).fault = none
  rw [fault_members, List.findSome?_eq_none_iff]
  intro k hk
  have hsome := h k hk
  unfold Key.text? at hsome
  split at hsome
  · rfl
  · exact nomatch hsome

end Report

end DocFilter
