import DocFilter.Proofs.Conjuncts
import DocFilter.Proofs.Places

/-!
# A report is put together from reports

A report is collected along one walk, with a path that grows as the walk
goes deeper. It could as well be collected piece by piece: the report on a
document is that on its members, each in a document of its own, one after
another; and the report on an `$and` is that on its elements, with the path
to the element put before theirs.

Taken to the end, this leaves nothing but **leaves** – a member that is no
`$and` with a list, or an element of an `$and` that is no document – each in
the innermost document that holds it. `Filter.leaves` lists them with the
positions of the elements around them, and a report is the reports on the
leaves, each with the path of its positions (`Report.members_eq_leaves`,
for any stem, by the recursion of the report itself).

The laws hold of trails, hence also of a report that a key ends: the whole
ends with the first piece that does, and in its fault.
-/

namespace DocFilter

namespace Trail

variable {α β : Type}

/-- A trail with each item replaced. -/
def map (g : α → β) (t : Trail α) : Trail β := ⟨t.items.map g, t.fault⟩

theorem map_append (g : α → β) (s t : Trail α) :
    (s ++ t).map g = s.map g ++ t.map g := by
  rcases s with ⟨as, _ | f⟩ <;> simp [append_def, map]

theorem map_concat (g : α → β) (ts : List (Trail α)) :
    (concat ts).map g = concat (ts.map (map g)) := by
  induction ts with
  | nil => rfl
  | cons t ts ih => rw [concat_cons, map_append, ih, List.map_cons, concat_cons]

theorem concat_singleton (t : Trail α) : concat [t] = t :=
  append_empty t

theorem toExcept_map (g : α → β) (t : Trail α) :
    (t.map g).toExcept = List.map g <$> t.toExcept := by
  rcases t with ⟨as, _ | f⟩ <;> rfl

theorem map_map {γ : Type} (h : β → γ) (g : α → β) (t : Trail α) :
    (t.map g).map h = t.map (h ∘ g) :=
  congrArg (Trail.mk · t.fault) List.map_map

/-- **Trails one after another** give the items of all of them, or the
fault of the first that has one. -/
theorem toExcept_concat_map (g : β → Trail α) (bs : List β) :
    (concat (bs.map g)).toExcept
      = List.flatten <$> bs.mapM fun b => (g b).toExcept := by
  induction bs with
  | nil => rfl
  | cons b bs ih =>
    have happend (s t : Trail α) : (s ++ t).toExcept
        = s.toExcept >>= fun as => (as ++ ·) <$> t.toExcept := by
      rcases s with ⟨as, _ | f⟩ <;> rcases t with ⟨cs, _ | e⟩ <;> rfl
    rw [List.map_cons, concat_cons, happend, ih, List.mapM_cons]
    simp only [← bind_pure_comp, bind_assoc, pure_bind, List.flatten_cons]

end Trail

/-! ## Moving a report to another path -/

/-- **An omission seen from further out**, with a stem before its path. -/
def Omission.under (stem : String) (o : Omission) : Omission :=
  { o with path := stem ++ o.path }

/-- From further out still. -/
theorem Omission.under_under (s t : String) (o : Omission) :
    (o.under t).under s = o.under (s ++ t) := by
  simp only [under, String.append_assoc]

namespace Report

/-- The report on a member in a document of its own. -/
theorem ofFilter_singleton (m : Key × Value) :
    ofFilter (.doc [m]) = member "" m.1 m.2 :=
  Trail.append_empty _

/-- The tests left out at a path further in. -/
theorem tests_under (reason? : Key → Value → Option Reason)
    (s path : String) (v : Value) :
    tests reason? (s ++ path) v
      = (tests reason? path v).map (Omission.under s) := by
  unfold tests
  cases v.condition with
  | plain w => rfl
  | operators ts =>
    dsimp only
    rw [List.map_filterMap]
    refine congrArg (List.filterMap · ts) (funext fun t => ?_)
    rw [Option.map_map]
    rfl

/-- What an `$or` at a path further in leaves out. -/
theorem orClauses_under (k : Key) (s path : String) (position : Nat)
    (cs : List Value) :
    orClauses k (s ++ path) position cs
      = (orClauses k path position cs).map (Omission.under s) := by
  induction cs generalizing position with
  | nil => rfl
  | cons c cs ih =>
    unfold orClauses
    rw [List.map_append, ih (position + 1)]
    refine congrArg (· ++ _) ?_
    cases c with
    | doc ms =>
      dsimp only
      rw [orMembers, orMembers, List.map_flatMap]
      refine congrArg (List.flatMap · ms) (funext fun m => ?_)
      obtain ⟨l, v⟩ := m
      dsimp only
      rw [← tests_under, clausePath_append, String.append_assoc,
        String.append_assoc, String.append_assoc]
    | atom a | seq f vs =>
      show [_] = [_]
      rw [clausePath_append]
      rfl

/-- The report on a member that joins no clauses, at a path further in. -/
theorem other_under (s path : String) (k : Key) (v : Value) :
    other (s ++ path) k v = (other path k v).map (Omission.under s) := by
  unfold other
  cases k.hasMark with
  | error f => rfl
  | ok marked =>
    cases marked with
    | true => rfl
    | false => exact congrArg Trail.ofList (tests_under _ s path v)

/-- **The report on a member that is no `$and` with a list** says the same
at any path. -/
theorem member_under (s : String) (k : Key) (v : Value)
    (h : ¬(k.operator? = some .and ∧ v.isSeq = true)) :
    member s k v = (member "" k v).map (Omission.under s) := by
  have hother (w : Value) : other (s ++ k.display) k w
      = (other ("" ++ k.display) k w).map (Omission.under s) := by
    rw [String.empty_append, other_under]
  have hone (r : Reason) : Trail.one ⟨s ++ k.display, k, r⟩
      = (Trail.one ⟨"" ++ k.display, k, r⟩ : Report).map
          (Omission.under s) := by
    rw [String.empty_append]
    rfl
  cases v with
  | seq f cs =>
    unfold member
    split
    · next hk => exact absurd ⟨hk, rfl⟩ h
    · rw [String.empty_append, orClauses_under]
      rfl
    · exact hother _
  | atom a | doc ms =>
    unfold member
    split
    · exact hone .needsList
    · exact hone .needsList
    · exact hother _

end Report

/-! ## Leaves -/

namespace Filter

/-- **What a report takes as it is**: a member that is no `$and` with a
list, or an element of an `$and` that is no document. -/
inductive LeafKind where
  | member (k : Key) (v : Value)
    (h : ¬(k.operator? = some .and ∧ v.isSeq = true))
  | stray (position : Nat)

/-- **A leaf**, and where it stands. -/
structure Leaf where
  /-- The positions of the `$and` elements around it, from the outside
  in. -/
  conjuncts : List Nat
  /-- What it is, in the innermost document. -/
  kind : LeafKind

/-- The report on a leaf in a document of its own. -/
def LeafKind.report : LeafKind → Report
  | member k v _ => Report.ofFilter (.doc [(k, v)])
  | stray i =>
    Trail.one ⟨Report.clausePath "$and" i, .text "$and", .needsDocument⟩

namespace Leaf

/-- A leaf of an element of an `$and`, seen from outside of it. -/
def within (position : Nat) (l : Leaf) : Leaf :=
  ⟨position :: l.conjuncts, l.kind⟩

/-- The report on a leaf where it stands, with a stem before its paths. -/
def report (s : String) (l : Leaf) : Report :=
  l.kind.report.map (Omission.under (s ++ Place.stem l.conjuncts))

/-- From outside, the path to the element stands before the leaf's. -/
theorem report_within (s : String) (position : Nat) (l : Leaf) :
    (l.within position).report s
      = l.report (s ++ Place.conjunctStem position) := by
  simp only [report, within, Place.stem, String.append_assoc]

/-- The report on a member where it stands. -/
theorem concat_report_member (s : String) (k : Key) (v : Value)
    (h : ¬(k.operator? = some .and ∧ v.isSeq = true)) :
    Trail.concat ([⟨[], .member k v h⟩].map (report s))
      = Report.member s k v := by
  rw [List.map_singleton, Trail.concat_singleton, report, LeafKind.report,
    Report.ofFilter_singleton, Place.stem, String.append_empty,
    ← Report.member_under s k v h]

/-- The report on a stray element where it stands. -/
theorem concat_report_stray (s : String) (position : Nat) :
    Trail.concat ([⟨[], .stray position⟩].map (report s))
      = Trail.one ⟨Report.clausePath (s ++ "$and") position, .text "$and",
          .needsDocument⟩ := by
  rw [List.map_singleton, Trail.concat_singleton, report, Place.stem,
    String.append_empty, Report.clausePath_append]
  rfl

end Leaf

mutual

/-- **The leaves of the members of a document**, in order. -/
def leaves : List (Key × Value) → List Leaf
  | [] => []
  | (k, v) :: ms => memberLeaves k v ++ leaves ms

/-- The leaves of one member: those of its elements, if it is an `$and`
with a list. -/
def memberLeaves (k : Key) : Value → List Leaf
  | .seq f cs =>
    if h : k.operator? = some .and then clausesLeaves 0 cs
    else [⟨[], .member k (.seq f cs) fun hand => h hand.1⟩]
  | .atom a => [⟨[], .member k (.atom a) nofun⟩]
  | .doc ms => [⟨[], .member k (.doc ms) nofun⟩]

/-- The leaves of the elements of an `$and`, from a position on. -/
def clausesLeaves (position : Nat) : List Value → List Leaf
  | [] => []
  | c :: cs => clauseLeaves position c ++ clausesLeaves (position + 1) cs

/-- The leaves of one element. -/
def clauseLeaves (position : Nat) : Value → List Leaf
  | .doc ms => (leaves ms).map (Leaf.within position)
  | _ => [⟨[], .stray position⟩]

end

end Filter

namespace Report

open DocFilter.Filter

mutual

/-- **The report on a document is the reports on its leaves**, where they
stand. -/
theorem members_eq_leaves (s : String) : (ms : List (Key × Value)) →
    members s ms = Trail.concat ((leaves ms).map (Leaf.report s))
  | [] => rfl
  | (k, v) :: ms => by
    rw [members, member_eq_leaves s k v, members_eq_leaves s ms, leaves,
      List.map_append, Trail.concat_append]

theorem member_eq_leaves (s : String) (k : Key) : (v : Value) →
    member s k v = Trail.concat ((memberLeaves k v).map (Leaf.report s))
  | .seq f cs => by
    unfold memberLeaves
    split
    · next h =>
      obtain rfl := Key.eq_text_of_operator? h
      exact clauses_eq_leaves s 0 cs
    · exact (Leaf.concat_report_member s k _ _).symm
  | .atom a => by rw [memberLeaves, Leaf.concat_report_member]
  | .doc ms => by rw [memberLeaves, Leaf.concat_report_member]

theorem clauses_eq_leaves (s : String) (position : Nat) :
    (cs : List Value) →
    clauses (.text Operator.and.tag) (s ++ "$and") position cs
      = Trail.concat ((clausesLeaves position cs).map (Leaf.report s))
  | [] => rfl
  | c :: cs => by
    rw [clauses, clause_eq_leaves s position c,
      clauses_eq_leaves s (position + 1) cs, clausesLeaves,
      List.map_append, Trail.concat_append]

theorem clause_eq_leaves (s : String) (position : Nat) : (c : Value) →
    clause (.text Operator.and.tag) (clausePath (s ++ "$and") position) c
      = Trail.concat ((clauseLeaves position c).map (Leaf.report s))
  | .doc ms => by
    rw [clause, clausePath_append, String.append_assoc,
      ← Place.conjunctStem,
      members_eq_leaves (s ++ Place.conjunctStem position) ms, clauseLeaves,
      List.map_map]
    refine congrArg Trail.concat (List.map_congr_left fun l _ => ?_)
    exact (l.report_within s position).symm
  | .atom a => (Leaf.concat_report_stray s position).symm
  | .seq f vs => (Leaf.concat_report_stray s position).symm

end

/-- **The report on a document at another path** is the same report, with
the path before each of its paths. -/
theorem members_under (s : String) (ms : List (Key × Value)) :
    members s ms = (members "" ms).map (Omission.under s) := by
  rw [members_eq_leaves s, members_eq_leaves "", Trail.map_concat,
    List.map_map]
  refine congrArg Trail.concat (List.map_congr_left fun l _ => ?_)
  show _ = ((l.kind.report).map _).map _
  rw [String.empty_append, Trail.map_map]
  simp only [Leaf.report, Function.comp_def, Omission.under_under]

/-- The report on the members of a document, one by one. -/
theorem members_eq_concat (ms : List (Key × Value)) :
    members "" ms
      = Trail.concat (ms.map fun m => ofFilter (.doc [m])) := by
  induction ms with
  | nil => rfl
  | cons m ms ih =>
    rw [List.map_cons, Trail.concat_cons, ofFilter_singleton, ← ih]
    rfl

/-- The report on the elements of an `$and`, one by one. -/
theorem clauses_eq_concat (k : Key) (path : String) (position : Nat)
    (cs : List Value) :
    clauses k path position cs
      = Trail.concat ((cs.zipIdx position).map fun c =>
          clause k (clausePath path c.2) c.1) := by
  induction cs generalizing position with
  | nil => rfl
  | cons c cs ih => rw [clauses, ih (position + 1)]; rfl

end Report

/-! ## Omissions -/

/-- **What an element of an `$and` leaves out**: what it leaves out as a
filter, with the path to the element before each path, or the element
itself, if it is no document. -/
def Value.conjunctOmissions (position : Nat) :
    Value → Except Fault (List Omission)
  | .doc ms =>
    List.map (Omission.under (Place.conjunctStem position))
      <$> (Value.doc ms).omissions
  | _ =>
    .ok [⟨Report.clausePath "$and" position, .text "$and", .needsDocument⟩]

/-- **What a leaf leaves out** in the innermost document: a member, what it
leaves out in a document of its own; a stray element, itself. -/
def Filter.LeafKind.omissions :
    Filter.LeafKind → Except Fault (List Omission)
  | member k v _ => (Value.doc [(k, v)]).omissions
  | stray i => .ok [⟨Report.clausePath "$and" i, .text "$and", .needsDocument⟩]

/-- What a leaf leaves out, with the path of its positions before each
path. -/
def Filter.Leaf.omissions (l : Filter.Leaf) :
    Except Fault (List Omission) :=
  List.map (Omission.under (Place.stem l.conjuncts)) <$> l.kind.omissions

namespace Filter

/-- An element of an `$and` leaves out what the report on it lists. -/
theorem toExcept_clause (k : Key) (position : Nat) (c : Value)
    (hk : k = .text "$and") :
    (Report.clause k (Report.clausePath "$and" position) c).toExcept
      = c.conjunctOmissions position := by
  subst hk
  cases c with
  | doc ms =>
    rw [Report.clause, Report.members_under, Trail.toExcept_map]
    rfl
  | atom a | seq f vs => rfl

/-- A leaf leaves out what the report on it lists. -/
theorem toExcept_report (l : Leaf) :
    (l.report "").toExcept = l.omissions := by
  rw [Leaf.report, String.empty_append, Trail.toExcept_map, Leaf.omissions]
  refine congrArg _ ?_
  cases l.kind with
  | member k v h => rfl
  | stray i => rfl

/-- **A report is put together from reports.**

* What a document leaves out is what its members leave out, each in a
  document of its own, in order.
* What an `$and` leaves out is what its elements leave out, in order: an
  element that is a document, what it leaves out as a filter, with `$and[i].`
  before each path; any other element, itself.
* At any depth, what a document leaves out is what its leaves leave out in
  the innermost documents, with the positions of the elements around them
  before each path, from the outside in.

Where a report ends in a fault, so does one of these, and the first that
does ends in the same. -/
theorem report_compositional :
    (∀ ms, (Value.doc ms).omissions
        = List.flatten <$> ms.mapM fun m => (Value.doc [m]).omissions)
      ∧ (∀ f cs, (allOf f cs).omissions
        = List.flatten <$> cs.zipIdx.mapM
            fun (c, i) => c.conjunctOmissions i)
      ∧ ∀ ms, (Value.doc ms).omissions
        = List.flatten <$> (leaves ms).mapM Leaf.omissions := by
  refine ⟨fun ms => ?_, fun f cs => ?_, fun ms => ?_⟩
  · show (Report.members "" ms).toExcept = _
    rw [Report.members_eq_concat, Trail.toExcept_concat_map]
    rfl
  · have hclauses : Report.ofFilter (allOf f cs)
        = Report.clauses (.text "$and") "$and" 0 cs :=
      Trail.append_empty _
    rw [Value.omissions, hclauses, Report.clauses_eq_concat,
      Trail.toExcept_concat_map]
    simp only [toExcept_clause]
  · show (Report.members "" ms).toExcept = _
    rw [Report.members_eq_leaves, Trail.toExcept_concat_map]
    simp only [toExcept_report]

-- A test two `$and`s deep, a stray element, and a reserved key.
example : (leaves
    [(.text "$and", .list
      [.null, .doc [(.text "$and", .seq .tuple
        [.doc [(.text "y", .int 1)], .int 7]), (.text "$nor", .null)]])]).map
      (fun l => Place.stem l.conjuncts)
    = ["", "$and[1].$and[0].", "$and[1].", "$and[1]."] := by decide

end Filter

end DocFilter
