import DocFilter.Proofs.Fates

/-!
# Where omissions stand

The path of an omission is one text, put together from the keys and the
positions that lead to it. A **place** holds the same in the form it has in
the document: the positions of the `$and` elements around the omission, from
the outside in, and a **spot** inside the innermost document – a reserved
key, a test on a field, an element of a list that is no document, or a test
inside an `$or`.

`Place.ofMembers` lists the places of a document by the walk that the report
takes, and the report is these places, each as an omission
(`Filter.omissions_eq_places`). So a question about the report has two
halves: one about places, which are data, and one about how a place is
worded.
-/

namespace DocFilter

/-- **What an omission can be about**, inside one document. -/
inductive Spot where
  /-- A reserved key that joins no clauses. -/
  | reserved (key : Key)
  /-- A test on a field, left out for a reason. -/
  | test (column tag : Key) (reason : Reason)
  /-- An element of an `$and` that is no document. -/
  | strayConjunct (position : Nat)
  /-- An element of an `$or` that is no document. -/
  | strayDisjunct (position : Nat)
  /-- A test in a clause of an `$or`, left out for a reason. -/
  | orTest (position : Nat) (column tag : Key) (reason : Reason)

namespace Spot

/-- The path of a spot, from the document it is in. -/
def path : Spot → String
  | reserved k => k.display
  | test column _ _ => column.display
  | strayConjunct i => Report.clausePath "$and" i
  | strayDisjunct i => Report.clausePath "$or" i
  | orTest i column _ _ => Report.clausePath "$or" i ++ "." ++ column.display

/-- The operator that an omission at a spot names. -/
def operator : Spot → Key
  | reserved k => k
  | test _ tag _ | orTest _ _ tag _ => tag
  | strayConjunct _ => .text "$and"
  | strayDisjunct _ => .text "$or"

/-- The reason that an omission at a spot names. -/
def reason : Spot → Reason
  | reserved k => if k.joinsClauses then .needsList else .noConnective
  | test _ _ r | orTest _ _ _ r => r
  | strayConjunct _ | strayDisjunct _ => .needsDocument

end Spot

/-- **Where an omission stands.** -/
structure Place where
  /-- The positions of the `$and` elements around it, from the outside
  in. -/
  conjuncts : List Nat
  /-- What it is about, in the innermost document. -/
  spot : Spot

namespace Place

/-- The path of an element of an `$and`, with the dot that goes on. -/
def conjunctStem (position : Nat) : String :=
  Report.clausePath "$and" position ++ "."

/-- **The path that leads into elements of `$and`s**, one inside the
other. -/
def stem : List Nat → String
  | [] => ""
  | i :: is => conjunctStem i ++ stem is

/-- The path of a place. -/
def path (p : Place) : String := stem p.conjuncts ++ p.spot.path

/-- **The omission at a place**, with a stem before its path. -/
def omission (s : String) (p : Place) : Omission :=
  ⟨s ++ p.path, p.spot.operator, p.spot.reason⟩

/-- A place in an element of an `$and`, seen from outside of it. -/
def under (position : Nat) (p : Place) : Place :=
  ⟨position :: p.conjuncts, p.spot⟩

/-- From outside, the stem of the element stands before the path. -/
theorem omission_under (s : String) (position : Nat) (p : Place) :
    (p.under position).omission s
      = p.omission (s ++ conjunctStem position) := by
  simp [omission, path, under, stem, String.append_assoc]

/-- A spot that is in no `$and` has its own path. -/
theorem omission_spot (s : String) (spot : Spot) :
    omission s ⟨[], spot⟩ = ⟨s ++ spot.path, spot.operator, spot.reason⟩ := by
  rw [omission, path, stem, String.empty_append]

/-! ## The places of a document -/

/-- The places of the tests on a field that are left out. -/
def ofTests (reason? : Key → Value → Option Reason)
    (spot : Key → Reason → Spot) (v : Value) : List Place :=
  match v.condition with
  | .plain _ => []
  | .operators ts => ts.filterMap fun (tag, operand) =>
    (reason? tag operand).map fun r => ⟨[], spot tag r⟩

/-- The places at a member that joins no clauses. -/
def ofOther (k : Key) (v : Value) : List Place :=
  match k.hasMark with
  | .ok true => [⟨[], .reserved k⟩]
  | .ok false => ofTests Report.fieldReason? (.test k) v
  | .error _ => []

/-- The places in an element of an `$or`. -/
def ofOrElement (position : Nat) : Value → List Place
  | .doc ms => ms.flatMap fun (k, v) =>
    ofTests Report.fragmentReason? (.orTest position k) v
  | _ => [⟨[], .strayDisjunct position⟩]

/-- The places in the elements of an `$or`, from a position on. -/
def ofOrClauses (position : Nat) : List Value → List Place
  | [] => []
  | c :: cs => ofOrElement position c ++ ofOrClauses (position + 1) cs

mutual

/-- **The places of the members of a document.** -/
def ofMembers : List (Key × Value) → List Place
  | [] => []
  | (k, v) :: ms => ofMember k v ++ ofMembers ms

/-- The places of one member. -/
def ofMember (k : Key) : Value → List Place
  | .seq f cs =>
    match k.operator? with
    | some .and => ofClauses 0 cs
    | some .or => ofOrClauses 0 cs
    | _ => ofOther k (.seq f cs)
  | v => ofOther k v

/-- The places in the elements of an `$and`, from a position on. -/
def ofClauses (position : Nat) : List Value → List Place
  | [] => []
  | c :: cs => ofClause position c ++ ofClauses (position + 1) cs

/-- The places in one element of an `$and`. -/
def ofClause (position : Nat) : Value → List Place
  | .doc ms => (ofMembers ms).map (under position)
  | _ => [⟨[], .strayConjunct position⟩]

end

end Place

/-! ## The report reads off the places -/

/-- The path of an element goes on from the path of its list. -/
theorem Report.clausePath_append (s path : String) (position : Nat) :
    clausePath (s ++ path) position = s ++ clausePath path position := by
  simp only [clausePath, String.append_assoc]

namespace Part

/-- The omissions that the sites of some parts are. -/
def omissions (ps : List Part) : List Omission :=
  (ps.flatMap sites).filterMap fun s => s.outcome.omission?

theorem omissions_append (ps qs : List Part) :
    omissions (ps ++ qs) = omissions ps ++ omissions qs := by
  rw [omissions, List.flatMap_append, List.filterMap_append]
  rfl

/-- Sites by themselves are the omissions they are. -/
theorem omissions_map_alone (ss : List Site) :
    omissions (ss.map alone) = ss.filterMap fun s => s.outcome.omission? := by
  rw [omissions, List.flatMap_map]
  exact congrArg (List.filterMap _) (List.flatMap_singleton' ss)

end Part

namespace Place

/-- The tests that are left out at a path are those at the places. -/
theorem tests_eq (reason? : Key → Value → Option Reason)
    (spot : Key → Reason → Spot) (s path : String)
    (hspot : ∀ tag r, omission s ⟨[], spot tag r⟩ = ⟨path, tag, r⟩)
    (v : Value) :
    Report.tests reason? path v
      = (ofTests reason? spot v).map (omission s) := by
  unfold Report.tests ofTests
  cases v.condition with
  | plain w => rfl
  | operators ts =>
    dsimp only
    rw [List.map_filterMap]
    refine congrArg (List.filterMap · ts) (funext fun t => ?_)
    rw [Option.map_map]
    refine congrArg (Option.map · _) (funext fun r => ?_)
    exact (hspot t.1 r).symm

/-- What a member that joins no clauses leaves out. -/
theorem omissions_ofOther (s : String) (k : Key) (v : Value) :
    Part.omissions ((Site.ofOther (s ++ k.display) k v).map .alone)
      = (ofOther k v).map (omission s) := by
  rw [Part.omissions_map_alone]
  unfold Site.ofOther ofOther
  cases k.hasMark with
  | error f => rfl
  | ok marked =>
    cases marked with
    | true =>
      show [_] = [omission s ⟨[], .reserved k⟩]
      rw [omission_spot]
      rfl
    | false =>
      dsimp only
      rw [← Report.tests_eq_ofField]
      exact tests_eq _ (.test k) s _ (fun tag r => omission_spot s _) v

/-- What an element of an `$or` leaves out. -/
theorem omissions_ofOrElement (s : String) (position : Nat) (c : Value) :
    (Site.ofOrElement (Report.clausePath (s ++ "$or") position)
        c).filterMap (fun s => s.outcome.omission?)
      = (ofOrElement position c).map (omission s) := by
  cases c with
  | doc ms =>
    rw [Site.ofOrElement, ← Report.orMembers_eq, ofOrElement,
      Report.orMembers, List.map_flatMap]
    refine congrArg (List.flatMap · ms) (funext fun m => ?_)
    refine tests_eq _ (.orTest position m.1) s _ (fun tag r => ?_) m.2
    simp only [omission_spot, Spot.path, Spot.operator, Spot.reason,
      Report.clausePath_append, String.append_assoc]
  | atom a | seq f vs =>
    show [_] = [omission s ⟨[], .strayDisjunct position⟩]
    rw [omission_spot, Report.clausePath_append]
    rfl

/-- What an `$or` leaves out. -/
theorem omissions_ofOrClauses (s : String) (position : Nat)
    (cs : List Value) :
    (Site.ofOrClauses (s ++ "$or") position cs).filterMap
        (fun s => s.outcome.omission?)
      = (ofOrClauses position cs).map (omission s) := by
  induction cs generalizing position with
  | nil => rfl
  | cons c cs ih =>
    rw [Site.ofOrClauses, List.filterMap_append, omissions_ofOrElement,
      ih (position + 1), ofOrClauses, List.map_append]

/-- What an element of an `$and` that is no document leaves out. -/
theorem omissions_stray (s : String) (position : Nat) (v : Value) :
    Part.omissions [.alone
        (.strayConjunct (Report.clausePath (s ++ "$and") position) v)]
      = [omission s ⟨[], .strayConjunct position⟩] := by
  rw [omission_spot, Report.clausePath_append]
  rfl

mutual

/-- **What a document leaves out** are the omissions at its places. -/
theorem omissions_ofMembers (s : String) : (ms : List (Key × Value)) →
    Part.omissions (Outline.members s ms) = (ofMembers ms).map (omission s)
  | [] => rfl
  | (k, v) :: ms => by
    rw [Outline.members, Part.omissions_append, omissions_ofMember s k v,
      omissions_ofMembers s ms, ofMembers, List.map_append]

theorem omissions_ofMember (s : String) (k : Key) : (v : Value) →
    Part.omissions (Outline.member s k v) = (ofMember k v).map (omission s)
  | .seq f cs => by
    unfold Outline.member ofMember
    cases h : k.operator? with
    | none => exact omissions_ofOther s k (.seq f cs)
    | some op =>
      cases op with
      | and =>
        obtain rfl := Key.eq_text_of_operator? h
        exact omissions_ofClauses s 0 cs
      | or =>
        obtain rfl := Key.eq_text_of_operator? h
        show (List.flatMap Part.sites [_]).filterMap _ = _
        rw [List.flatMap_singleton]
        exact omissions_ofOrClauses s 0 cs
      | _ => exact omissions_ofOther s k (.seq f cs)
  | .atom a => omissions_ofOther s k (.atom a)
  | .doc ms => omissions_ofOther s k (.doc ms)

theorem omissions_ofClauses (s : String) (position : Nat) :
    (cs : List Value) →
    Part.omissions (Outline.clauses (s ++ "$and") position cs)
      = (ofClauses position cs).map (omission s)
  | [] => rfl
  | c :: cs => by
    rw [Outline.clauses, Part.omissions_append,
      omissions_ofClause s position c,
      omissions_ofClauses s (position + 1) cs, ofClauses, List.map_append]

theorem omissions_ofClause (s : String) (position : Nat) : (c : Value) →
    Part.omissions
        (Outline.clause (Report.clausePath (s ++ "$and") position) c)
      = (ofClause position c).map (omission s)
  | .doc ms => by
    rw [Outline.clause, Report.clausePath_append, String.append_assoc,
      omissions_ofMembers, ofClause, List.map_map]
    refine List.map_congr_left fun p _ => ?_
    exact (omission_under s position p).symm
  | .atom a => omissions_stray s position (.atom a)
  | .seq f vs => omissions_stray s position (.seq f vs)

end

end Place

namespace Filter

/-- **A report that no key ends** lists the omissions at the places of the
document. -/
theorem omissions_eq_places {ms : List (Key × Value)}
    (h : (Report.ofFilter (.doc ms)).fault = none) :
    (Value.doc ms).omissions
      = .ok ((Place.ofMembers ms).map (Place.omission "")) := by
  rw [omissions_of_fault_eq_none h, List.filterMap_map]
  exact congrArg Except.ok (Place.omissions_ofMembers "" ms)

end Filter

end DocFilter
