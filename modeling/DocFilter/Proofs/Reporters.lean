import DocFilter.Reporter

/-!
# Each filter is reported on by itself

A reporter may be asked to report any number of times, and one of its walks
may end in a fault with half of a list collected. Nothing of that shows in a
later answer or in an earlier one.

Two facts carry this. The walk collects, into whatever list the reporter has
at the time, just the omissions of the report, and ends in its fault
(`Reporter.walkFilter_eq`); the walk puts omissions where it meets them and
the report lists them, so this goes by the recursion they share. And lists
are only ever added behind those there are: a walk changes the list that is
collected into and no other, and this list was begun for it
(`Reporter.lists_prefix_reportOn`). So the lists of a reporter are a
beginning of its lists at any later time (`Reporter.lists_prefix_reports`).

The main statement, `Reporter.each_filter_by_itself`, says of any filter
among any others what is answered to it, and that the answer stays what it
was.
-/

namespace DocFilter

namespace Reporter

/-! ## The walk collects the report -/

/-- Collects omissions one after another. -/
def collectAll (r : Reporter) (os : List Omission) : Reporter :=
  os.foldl collect r

/-- **Walks as a report says**: past its omissions, one after another, to
its fault. -/
def walkReport (t : Report) : Walk := fun r =>
  (r.collectAll t.items, t.fault)

/-- A report that goes on with another. -/
theorem walkReport_append (s t : Report) :
    walkReport (s ++ t) = (walkReport s).andThen (walkReport t) := by
  funext r
  rcases s with ⟨os, _ | f⟩
  · show (r.collectAll (os ++ t.items), t.fault)
      = ((r.collectAll os).collectAll t.items, t.fault)
    rw [collectAll, List.foldl_append]
    rfl
  · rfl

/-- Omissions, and then others. -/
theorem walkReport_ofList_append (os others : List Omission) :
    walkReport (Trail.ofList (os ++ others))
      = (walkReport (Trail.ofList os)).andThen
        (walkReport (Trail.ofList others)) :=
  walkReport_append (Trail.ofList os) (Trail.ofList others)

theorem walkTests_eq (reason? : Key → Value → Option Reason) (path : String)
    (ts : List (Key × Value)) :
    walkTests reason? path ts
      = walkReport (Trail.ofList (ts.filterMap fun (tag, operand) =>
        (reason? tag operand).map fun why => ⟨path, tag, why⟩)) := by
  induction ts with
  | nil => rfl
  | cons t ts ih =>
    obtain ⟨tag, operand⟩ := t
    rw [walkTests, ih]
    cases h : reason? tag operand with
    | none =>
      rw [List.filterMap_cons_none (by simp only [h, Option.map_none])]
      rfl
    | some why =>
      rw [List.filterMap_cons_some (b := ⟨path, tag, why⟩)
        (by simp only [h, Option.map_some])]
      rfl

theorem walkCondition_eq (reason? : Key → Value → Option Reason)
    (path : String) (v : Value) :
    walkCondition reason? path v
      = walkReport (Trail.ofList (Report.tests reason? path v)) := by
  unfold walkCondition Report.tests
  cases v.condition with
  | plain w => rfl
  | operators ts => exact walkTests_eq reason? path ts

theorem walkOrMembers_eq (stem : String) (ms : List (Key × Value)) :
    walkOrMembers stem ms
      = walkReport (Trail.ofList (Report.orMembers stem ms)) := by
  induction ms with
  | nil => rfl
  | cons m ms ih =>
    obtain ⟨k, v⟩ := m
    rw [walkOrMembers, walkCondition_eq, ih, ← walkReport_ofList_append]
    rfl

theorem walkOrClauses_eq (k : Key) (path : String) (position : Nat)
    (cs : List Value) :
    walkOrClauses k path position cs
      = walkReport (Trail.ofList (Report.orClauses k path position cs)) := by
  induction cs generalizing position with
  | nil => rfl
  | cons c cs ih =>
    unfold walkOrClauses Report.orClauses
    dsimp only
    rw [ih, walkReport_ofList_append]
    cases c with
    | doc ms => exact congrArg (Walk.andThen · _) (walkOrMembers_eq _ ms)
    | _ => rfl

theorem walkOther_eq (path : String) (k : Key) (v : Value) :
    walkOther path k v = walkReport (Report.other path k v) := by
  unfold walkOther Report.other
  cases k.hasMark with
  | error f => rfl
  | ok marked =>
    cases marked with
    | true => rfl
    | false => exact walkCondition_eq Report.fieldReason? path v

/-- A member whose value is no sequence. -/
theorem walkMember_eq_of_not_seq (path : String) (k : Key) (v : Value) :
    (match k.operator? with
      | some .and | some .or => drop ⟨path, k, .needsList⟩
      | _ => walkOther path k v)
      = walkReport (match k.operator? with
        | some .and | some .or => Trail.one ⟨path, k, .needsList⟩
        | _ => Report.other path k v) := by
  cases k.operator? with
  | none => exact walkOther_eq path k v
  | some op =>
    cases op with
    | and | or => rfl
    | _ => exact walkOther_eq path k v

mutual

/-- **Walking collects the report**: the members of a document. -/
theorem walkMembers_eq (stem : String) : (ms : List (Key × Value)) →
    walkMembers stem ms = walkReport (Report.members stem ms)
  | [] => rfl
  | (k, v) :: ms => by
    rw [walkMembers, Report.members, walkReport_append,
      walkMember_eq stem k v, walkMembers_eq stem ms]

theorem walkMember_eq (stem : String) (k : Key) : (v : Value) →
    walkMember stem k v = walkReport (Report.member stem k v)
  | .seq f cs => by
    unfold walkMember Report.member
    cases k.operator? with
    | none => exact walkOther_eq _ k (.seq f cs)
    | some op =>
      cases op with
      | and => exact walkClauses_eq k _ 0 cs
      | or => exact walkOrClauses_eq k _ 0 cs
      | _ => exact walkOther_eq _ k (.seq f cs)
  | .atom a => walkMember_eq_of_not_seq (stem ++ k.display) k (.atom a)
  | .doc ms => walkMember_eq_of_not_seq (stem ++ k.display) k (.doc ms)

theorem walkClauses_eq (k : Key) (path : String) (position : Nat) :
    (cs : List Value) →
    walkClauses k path position cs
      = walkReport (Report.clauses k path position cs)
  | [] => rfl
  | c :: cs => by
    rw [walkClauses, Report.clauses, walkReport_append,
      walkClause_eq k (Report.clausePath path position) c,
      walkClauses_eq k path (position + 1) cs]

theorem walkClause_eq (k : Key) (path : String) : (c : Value) →
    walkClause k path c = walkReport (Report.clause k path c)
  | .doc ms => walkMembers_eq (path ++ ".") ms
  | .atom _ => rfl
  | .seq _ _ => rfl

end

/-- **Walking through a filter** collects its report, whatever the reporter
has collected before. -/
theorem walkFilter_eq (v : Value) :
    walkFilter v = walkReport (Report.ofFilter v) := by
  unfold walkFilter Report.ofFilter
  cases v.members with
  | error f => rfl
  | ok ms => exact walkMembers_eq "" ms

/-! ## Where omissions are collected -/

/-- **Only the current list changes**: the omissions are put behind those it
holds. -/
theorem lists_collectAll (r : Reporter) (os : List Omission) :
    (r.collectAll os).lists = r.lists.modify r.current (· ++ os)
      ∧ (r.collectAll os).current = r.current := by
  induction os generalizing r with
  | nil =>
    refine ⟨?_, rfl⟩
    simp only [List.append_nil]
    exact (List.modify_id _ _).symm
  | cons o os ih =>
    obtain ⟨hlists, hcurrent⟩ := ih (r.collect o)
    refine ⟨?_, hcurrent⟩
    show ((r.collect o).collectAll os).lists = _
    rw [hlists]
    show (r.lists.modify r.current (· ++ [o])).modify r.current (· ++ os) = _
    rw [List.modify_modify_eq]
    refine congrArg (r.lists.modify r.current) (funext fun l => ?_)
    exact List.append_assoc l [o] os

/-- What is collected after a new list was begun is this list. -/
theorem collectAll_newList (r : Reporter) (os : List Omission) :
    (r.newList.collectAll os).lists = r.lists ++ [os]
      ∧ (r.newList.collectAll os).current = r.lists.length := by
  obtain ⟨hlists, hcurrent⟩ := lists_collectAll r.newList os
  refine ⟨hlists.trans ?_, hcurrent⟩
  show (r.lists ++ [[]]).modify r.lists.length (· ++ os) = r.lists ++ [os]
  rw [List.modify_eq_take_cons_drop (by simp)]
  simp

/-! ## One report -/

/-- What is collected is what is in the current list. -/
theorem collected_of_list? {r : Reporter} {os : List Omission}
    (h : r.list? r.current = some os) : r.collected = os := by
  obtain ⟨_, hos⟩ := List.getElem?_eq_some_iff.mp h
  exact hos

/-- **A report without a fault**: one list was collected into, and the answer
is the place of another that is the same. -/
theorem reportOn_of_fault_eq_none {v : Value}
    (h : (Report.ofFilter v).fault = none) (r : Reporter) :
    let os := (Report.ofFilter v).items
    (r.reportOn v).1.lists = r.lists ++ [os] ++ [os]
      ∧ (r.reportOn v).2 = .ok (r.lists ++ [os]).length := by
  intro os
  obtain ⟨hlists, hcurrent⟩ := collectAll_newList r os
  have hcollected : (r.newList.collectAll os).collected = os := by
    refine collected_of_list? ?_
    rw [list?, hlists, hcurrent]
    exact List.getElem?_concat_length
  have hreport : r.reportOn v
      = ((r.newList.collectAll os).handOut.1,
          .ok (r.newList.collectAll os).handOut.2) := by
    rw [reportOn, walkFilter_eq, walkReport, h]
  rw [hreport, ← hlists]
  refine ⟨?_, rfl⟩
  show _ ++ [(r.newList.collectAll os).collected] = _
  rw [hcollected]

/-- **A report that a fault ends**: one list was collected into. -/
theorem reportOn_of_fault_eq_some {v : Value} {f : Fault}
    (h : (Report.ofFilter v).fault = some f) (r : Reporter) :
    (r.reportOn v).1.lists = r.lists ++ [(Report.ofFilter v).items]
      ∧ (r.reportOn v).2 = .error f := by
  have hreport : r.reportOn v
      = (r.newList.collectAll (Report.ofFilter v).items, .error f) := by
    rw [reportOn, walkFilter_eq, walkReport, h]
  rw [hreport]
  exact ⟨(collectAll_newList r _).1, rfl⟩

/-- **The answer to a filter**, read at once, is what the filter leaves out,
whatever the reporter did before. -/
theorem map_list?_reportOn (r : Reporter) (v : Value) :
    (r.reportOn v).2.map (r.reportOn v).1.list? = v.omissions.map some := by
  unfold Value.omissions Trail.toExcept
  cases h : (Report.ofFilter v).fault with
  | some f =>
    rw [(reportOn_of_fault_eq_some h r).2]
    rfl
  | none =>
    obtain ⟨hlists, hplace⟩ := reportOn_of_fault_eq_none h r
    rw [hplace]
    refine congrArg Except.ok ?_
    rw [list?, hlists]
    exact List.getElem?_concat_length

/-- No list that is there is changed or taken away by a report. -/
theorem lists_prefix_reportOn (r : Reporter) (v : Value) :
    r.lists <+: (r.reportOn v).1.lists := by
  cases h : (Report.ofFilter v).fault with
  | some f =>
    rw [(reportOn_of_fault_eq_some h r).1]
    exact List.prefix_append ..
  | none =>
    rw [(reportOn_of_fault_eq_none h r).1, List.append_assoc]
    exact List.prefix_append ..

/-! ## Many reports -/

/-- **No list that is there is changed or taken away** by any number of
reports. -/
theorem lists_prefix_reports (r : Reporter) (vs : List Value) :
    r.lists <+: (r.reports vs).1.lists := by
  induction vs generalizing r with
  | nil => exact List.prefix_refl r.lists
  | cons v vs ih =>
    exact (lists_prefix_reportOn r v).trans (ih (r.reportOn v).1)

/-- What could be read can be read after any number of reports, and it is the
same. -/
theorem list?_reports {r : Reporter} {place : Nat} {os : List Omission}
    (h : r.list? place = some os) (vs : List Value) :
    (r.reports vs).1.list? place = some os := by
  obtain ⟨hplace, -⟩ := List.getElem?_eq_some_iff.mp h
  have hsame : (r.reports vs).1.lists[place]? = some r.lists[place] :=
    List.prefix_iff_getElem?.mp (lists_prefix_reports r vs) place hplace
  rw [list?, hsame, ← h, list?, List.getElem?_eq_getElem hplace]

/-- The first report, and then the others. -/
theorem reports_cons (r : Reporter) (v : Value) (vs : List Value) :
    r.reports (v :: vs)
      = (((r.reportOn v).1.reports vs).1,
          (r.reportOn v).2 :: ((r.reportOn v).1.reports vs).2) := rfl

/-- Reports on some filters, and then on others. -/
theorem reports_append (r : Reporter) (vs others : List Value) :
    r.reports (vs ++ others)
      = (((r.reports vs).1.reports others).1,
          (r.reports vs).2 ++ ((r.reports vs).1.reports others).2) := by
  induction vs generalizing r with
  | nil => rfl
  | cons v vs ih =>
    rw [List.cons_append, reports_cons, ih (r.reportOn v).1]
    rfl

/-- Every filter has an answer. -/
theorem length_reports (r : Reporter) (vs : List Value) :
    (r.reports vs).2.length = vs.length := by
  induction vs generalizing r with
  | nil => rfl
  | cons v vs ih => exact congrArg (· + 1) (ih (r.reportOn v).1)

/-- **Each filter is reported on by itself.** Take any filter among those a
reporter is asked about, with any filters before it – some of them ended by a
fault, perhaps, with omissions collected – and any after it.

* The answer to it is the one that this report gives by itself.
* Read at once, it is what the filter leaves out, or the fault that ends its
  report; and this is what a fresh reporter answers.
* Read after all the other reports, it is still the same. -/
theorem each_filter_by_itself (r : Reporter) (before : List Value)
    (v : Value) (after : List Value) :
    let now := (r.reports before).1.reportOn v
    let alone := fresh.reportOn v
    let whole := r.reports (before ++ v :: after)
    whole.2[before.length]? = some now.2
      ∧ now.2.map now.1.list? = v.omissions.map some
      ∧ alone.2.map alone.1.list? = v.omissions.map some
      ∧ now.2.map whole.1.list? = v.omissions.map some := by
  intro now alone whole
  have hwhole : whole = ((now.1.reports after).1,
      (r.reports before).2 ++ now.2 :: (now.1.reports after).2) := by
    show r.reports (before ++ v :: after) = _
    rw [reports_append, reports_cons]
  have hnow : now.2.map now.1.list? = v.omissions.map some :=
    map_list?_reportOn _ v
  refine ⟨?_, hnow, map_list?_reportOn fresh v, ?_⟩
  · rw [hwhole, ← length_reports r before]
    show ((r.reports before).2 ++ now.2 :: _)[_]? = some now.2
    rw [List.getElem?_append_right (Nat.le_refl _), Nat.sub_self]
    rfl
  · rw [hwhole, ← hnow]
    cases hanswer : now.2 with
    | error f => rfl
    | ok place =>
      rw [hanswer] at hnow
      cases homissions : v.omissions with
      | error f =>
        rw [homissions] at hnow
        exact nomatch hnow
      | ok os =>
        rw [homissions] at hnow
        have hplace : now.1.list? place = some os := Except.ok.inj hnow
        refine congrArg Except.ok ?_
        rw [hplace]
        exact list?_reports hplace after

/-- A report that a fault ends after one omission, one that leaves out two
constructs, and one that leaves out nothing: the second answer is the same
as a fresh reporter's, at the end as at the time it was given. -/
theorem each_filter_by_itself_after_fault :
    let halfway : Value := .doc [(.text "a", .doc [(.text "$foo", .int 1)]),
      (.atom (.int 5), .int 1)]
    let v : Value := .doc [(.text "$nor", .list []),
      (.text "$and", .list [.int 1])]
    let left : List Omission := [⟨"$nor", .text "$nor", .noConnective⟩,
      ⟨"$and[0]", .text "$and", .needsDocument⟩]
    let whole := fresh.reports [halfway, v, .doc []]
    (fresh.reportOn halfway).2 = .error (.notMarkable .int)
      ∧ (fresh.reportOn halfway).1.collected
        = [⟨"a", .text "$foo", .noCall⟩]
      ∧ whole.2[1]? = some (.ok 3)
      ∧ whole.1.list? 3 = some left := by
  intro halfway v left whole
  obtain ⟨hanswer, -, -, hend⟩ :=
    each_filter_by_itself fresh [halfway] v [.doc []]
  have hplace : ((fresh.reports [halfway]).1.reportOn v).2 = .ok 3 := rfl
  rw [hplace] at hanswer hend
  exact ⟨rfl, by decide, hanswer, Except.ok.inj hend⟩

end Reporter

end DocFilter
