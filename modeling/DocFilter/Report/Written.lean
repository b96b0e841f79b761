import DocFilter.Report
import DocFilter.Value.Digits

/-!
# Writing the paths of a report

A path is written before anything is said about what is there. The path of a
member is written as the member is met, that of a field in an `$or` only
where there are tests on the field. A key with an integer too long to be
written ends the report there.

Where no such key is met, the report is that of `Report.ofFilter`.
-/

namespace DocFilter

namespace Report

variable (limit : DigitLimit)

/-- A report on what is under a key, which has to be written first. -/
def under (k : Key) (r : Report) : Report :=
  if k.fits limit then r else Trail.stop limit.fault

/-- The omissions at a field in a clause of an `$or`. -/
def orFieldWithin (stem : String) (k : Key) (v : Value) : Report :=
  match v.condition with
  | .plain _ => Trail.empty
  | .operators _ =>
    under limit k (Trail.ofList (tests fragmentReason? (stem ++ k.display) v))

/-- The omissions in a clause of an `$or`, with `stem` before each path. -/
def orMembersWithin (stem : String) : List (Key × Value) → Report
  | [] => Trail.empty
  | (k, v) :: ms => orFieldWithin limit stem k v ++ orMembersWithin stem ms

/-- The omissions in the clauses of an `$or`, from a position on. -/
def orClausesWithin (k : Key) (path : String) (position : Nat) :
    List Value → Report
  | [] => Trail.empty
  | c :: cs =>
    let here := clausePath path position
    (match c with
      | .doc ms => orMembersWithin limit (here ++ ".") ms
      | _ => Trail.one ⟨here, k, .needsDocument⟩)
    ++ orClausesWithin k path (position + 1) cs

mutual

/-- **The report on the members of a document**, with `stem` before each
path. -/
def membersWithin (stem : String) : List (Key × Value) → Report
  | [] => Trail.empty
  | (k, v) :: ms =>
    under limit k (memberWithin stem k v) ++ membersWithin stem ms

/-- The report on one member. Only lists of clauses hold other keys. -/
def memberWithin (stem : String) (k : Key) : Value → Report
  | .seq f cs =>
    match k.operator? with
    | some .and => clausesWithin k (stem ++ k.display) 0 cs
    | some .or => orClausesWithin limit k (stem ++ k.display) 0 cs
    | _ => other (stem ++ k.display) k (.seq f cs)
  | v => member stem k v

/-- The report on the clauses of an `$and`, from a position on. -/
def clausesWithin (k : Key) (path : String) (position : Nat) :
    List Value → Report
  | [] => Trail.empty
  | c :: cs =>
    clauseWithin k (clausePath path position) c
      ++ clausesWithin k path (position + 1) cs

/-- The report on one clause of an `$and`. -/
def clauseWithin (k : Key) (path : String) : Value → Report
  | .doc ms => membersWithin (path ++ ".") ms
  | _ => Trail.one ⟨path, k, .needsDocument⟩

end

/-- **The report on a filter within the limit**; a filter has to be a
document. -/
def ofFilterWithin (v : Value) : Report :=
  match v.members with
  | .ok ms => membersWithin limit "" ms
  | .error f => Trail.stop f

end Report

/-- **What a filter leaves out**, where its paths can be written. -/
def Value.omissionsWithin (limit : DigitLimit) (v : Value) :
    Except Fault (List Omission) :=
  (Report.ofFilterWithin limit v).toExcept

end DocFilter
