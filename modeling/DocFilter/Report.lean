import DocFilter.Condition
import DocFilter.Trail

/-!
# Reports of omissions

A filter document asks for more than calls can say, and what they cannot
say is left out. A **report** lists every such omission: where it is, the
operator it concerns, and why.

The report walks the document by the rules that decide which calls are
made, but makes none of them: it looks only at keys, tags and the shape
of operands. A path names the keys from the outside in, and the clauses
of a list by their positions.
-/

namespace DocFilter

/-- **Why a construct is left out.** -/
inductive Reason where
  /-- No call stands for the test. -/
  | noCall
  /-- The reserved key joins no documents. -/
  | noConnective
  /-- A list is needed. -/
  | needsList
  /-- A document is needed. -/
  | needsDocument
  /-- The test has no written form in an `$or`. -/
  | notWritten
  deriving DecidableEq

/-- The text of a reason. -/
def Reason.text : Reason → String
  | noCall => "unsupported operator"
  | noConnective => "unsupported logical operator"
  | needsList => "operand is not a list"
  | needsDocument => "clause is not a document"
  | notWritten => "no composite encoding inside $or"

/-- **A construct that is left out.** -/
structure Omission where
  /-- Where it is. -/
  path : String
  /-- The operator it concerns. -/
  operator : Key
  /-- Why it is left out. -/
  reason : Reason
  deriving DecidableEq

/-- The text of an omission. -/
def Omission.text (o : Omission) : String :=
  o.path ++ ": " ++ o.operator.display ++ " (" ++ o.reason.text ++ ")"

/-- **Omissions in order, up to a fault if there is one.** -/
abbrev Report := Trail Omission

namespace Report

/-- The tests on a field that a call stands for. -/
def testsWithCall : List Operator :=
  [.eq, .ne, .gt, .gte, .lt, .lte, .inList, .notInList, .regex, .present]

/-- The tests on a field that need a list. -/
def testsOfLists : List Operator := [.inList, .notInList]

/-- The tests that have a written form in an `$or`. -/
def testsWithFragment : List Operator :=
  [.eq, .ne, .gt, .gte, .lt, .lte, .inList]

/-- Why a test on a field is left out, if it is. -/
def fieldReason? (tag : Key) (operand : Value) : Option Reason :=
  match tag.operator? with
  | none => some .noCall
  | some op =>
    if !testsWithCall.contains op then some .noCall
    else if testsOfLists.contains op && !operand.isSeq then
      some .needsList
    else none

/-- Why a test in an `$or` is left out, if it is. -/
def fragmentReason? (tag : Key) (operand : Value) : Option Reason :=
  match tag.operator? with
  | none => some .notWritten
  | some op =>
    if !testsWithFragment.contains op then some .notWritten
    else if op == .inList && !operand.isSeq then some .needsList
    else none

/-- The omissions among the tests at one path. -/
def tests (reason? : Key → Value → Option Reason) (path : String)
    (v : Value) : List Omission :=
  match v.condition with
  | .plain _ => []
  | .operators ts => ts.filterMap fun (tag, operand) =>
    (reason? tag operand).map fun r => ⟨path, tag, r⟩

/-- The path of a clause of a list. -/
def clausePath (path : String) (position : Nat) : String :=
  path ++ "[" ++ toString position ++ "]"

/-- The omissions in a clause of an `$or`, with `stem` before each path. -/
def orMembers (stem : String) (ms : List (Key × Value)) : List Omission :=
  ms.flatMap fun (k, v) => tests fragmentReason? (stem ++ k.display) v

/-- The omissions in the clauses of an `$or`, from a position on. -/
def orClauses (k : Key) (path : String) (position : Nat) :
    List Value → List Omission
  | [] => []
  | c :: cs =>
    let here := clausePath path position
    (match c with
      | .doc ms => orMembers (here ++ ".") ms
      | _ => [⟨here, k, .needsDocument⟩])
    ++ orClauses k path (position + 1) cs

/-- The report on a member that joins no clauses. -/
def other (path : String) (k : Key) (v : Value) : Report :=
  match k.hasMark with
  | .ok true => Trail.one ⟨path, k, .noConnective⟩
  | .ok false => Trail.ofList (tests fieldReason? path v)
  | .error f => Trail.stop f

mutual

/-- **The report on the members of a document**, with `stem` before each
path. -/
def members (stem : String) : List (Key × Value) → Report
  | [] => Trail.empty
  | (k, v) :: ms => member stem k v ++ members stem ms

/-- The report on one member. -/
def member (stem : String) (k : Key) : Value → Report
  | .seq f cs =>
    match k.operator? with
    | some .and => clauses k (stem ++ k.display) 0 cs
    | some .or => Trail.ofList (orClauses k (stem ++ k.display) 0 cs)
    | _ => other (stem ++ k.display) k (.seq f cs)
  | v =>
    match k.operator? with
    | some .and | some .or => Trail.one ⟨stem ++ k.display, k, .needsList⟩
    | _ => other (stem ++ k.display) k v

/-- The report on the clauses of an `$and`, from a position on. -/
def clauses (k : Key) (path : String) (position : Nat) :
    List Value → Report
  | [] => Trail.empty
  | c :: cs =>
    clause k (clausePath path position) c
      ++ clauses k path (position + 1) cs

/-- The report on one clause of an `$and`. -/
def clause (k : Key) (path : String) : Value → Report
  | .doc ms => members (path ++ ".") ms
  | _ => Trail.one ⟨path, k, .needsDocument⟩

end

/-- **The report on a filter**, which has to be a document. -/
def ofFilter (v : Value) : Report :=
  match v.members with
  | .ok ms => members "" ms
  | .error f => Trail.stop f

end Report

/-- **What a filter leaves out.** -/
def Value.omissions (v : Value) : Except Fault (List Omission) :=
  (Report.ofFilter v).toExcept

end DocFilter
