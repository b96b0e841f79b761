import DocFilter.Proofs.Columns

/-!
# A query keeps the rows of its filter

What a filter means and what its query means are two readings of the same
calls and written tests. A **valuation** says which of these hold – for a
row, say. Under it a document holds if all of its entries do, an `$and` if
all of its elements do, and an `$or` if in one of its clauses all written
tests hold. A query is flat: each call has to hold by itself, and of the
fragments of an `$or` one is enough.

Between the two stands the outline. A document holds if all of its parts do
(`Valuation.members_iff`), and the query has one term for each part, so the
two can differ only in an `$or`, whose clauses lose their borders when it is
written. If nothing is left out, a clause with conditions keeps a fragment;
then a clause that holds makes the term hold, and the query keeps every row
of the filter. With one condition to each clause there are no borders to
lose, and the query says just what the filter says
(`Filter.query_of_document`).
-/

namespace DocFilter

/-- **A valuation**: what holds of all that can be called or written. -/
structure Valuation where
  /-- Whether a call about a column holds. -/
  call : Call → Prop
  /-- Whether a written test holds. -/
  fragment : Fragment → Prop

/-! ## The meaning of a document -/

namespace Valuation

/-- A member that joins no clauses means that the calls of its conditions
hold. -/
def entry (w : Valuation) (k : Key) (v : Value) : Prop :=
  ∀ c ∈ Script.calls (Filter.otherScript k v), w.call c

/-- A clause of an `$or` means that its written tests hold. -/
def orClause (w : Valuation) (c : Value) : Prop :=
  ∀ f ∈ Disjunction.fragmentsOf (Disjunction.elementOutcomes c),
    w.fragment f

mutual

/-- **The members of a document mean** that each of them holds. -/
def members (w : Valuation) : List (Key × Value) → Prop
  | [] => True
  | (k, v) :: ms => w.member k v ∧ w.members ms

/-- One member: all elements of an `$and`, some clause of an `$or`, or the
member by itself. -/
def member (w : Valuation) (k : Key) : Value → Prop
  | .seq f cs =>
    match k.operator? with
    | some .and => w.clauses cs
    | some .or => ∃ c ∈ cs, w.orClause c
    | _ => w.entry k (.seq f cs)
  | v => w.entry k v

/-- The elements of an `$and` mean that each of them holds. -/
def clauses (w : Valuation) : List Value → Prop
  | [] => True
  | c :: cs => w.clause c ∧ w.clauses cs

/-- One element of an `$and`. What is no document says nothing. -/
def clause (w : Valuation) : Value → Prop
  | .doc ms => w.members ms
  | _ => True

end

/-- **The meaning of a filter.** -/
def document (w : Valuation) : Value → Prop
  | .doc ms => w.members ms
  | _ => True

end Valuation

/-! ## The meaning of a query -/

/-- **A term of a query**: a call about a column, or the fragments that one
call joins by *or*. -/
inductive Term where
  | call (c : Call)
  | anyOf (fs : List Fragment)

/-- The call a term is. -/
def Term.toCall : Term → Call
  | call c => c
  | anyOf fs => .or (.text (",".intercalate (fs.map Fragment.text)))

/-- The term that a part becomes. -/
def Part.term? : Part → Option Term
  | alone s => s.outcome.call?.map .call
  | joined _ cs => some (.anyOf (Disjunction.fragments cs))

/-- **The query of a filter**, term by term. -/
def Value.query (v : Value) : List Term := v.reached.filterMap Part.term?

namespace Valuation

variable (w : Valuation)

/-- A term means that its call holds, or one of its fragments. -/
def term : Term → Prop
  | .call c => w.call c
  | .anyOf fs => ∃ f ∈ fs, w.fragment f

/-- **The meaning of a query**: each of its terms holds. -/
def query (ts : List Term) : Prop := ∀ t ∈ ts, w.term t

end Valuation

/-- The call of a part is that of its term. -/
theorem Part.call?_eq_term? (p : Part) :
    p.call? = p.term?.map Term.toCall := by
  cases p with
  | alone s =>
    show s.outcome.call? = (s.outcome.call?.map Term.call).map Term.toCall
    cases s.outcome.call? <;> rfl
  | joined path cs =>
    rw [call?_joined, Disjunction.text_eq_intercalate]
    rfl

/-- **The calls of a translation are those of the terms.** -/
theorem Filter.calls_eq_query (v : Value) :
    (script v).calls = v.query.map Term.toCall := by
  rw [calls_script, Value.query, List.map_filterMap]
  exact List.filterMap_congr fun p _ => p.call?_eq_term?

/-- A term that is one call is about a column. -/
theorem Filter.disjunction?_of_mem_query {v : Value} {c : Call}
    (h : Term.call c ∈ v.query) : c.disjunction? = none := by
  obtain ⟨p, -, hp⟩ := List.mem_filterMap.mp h
  cases p with
  | alone s =>
    obtain ⟨d, hd, hdc⟩ := Option.map_eq_some_iff.mp hp
    obtain rfl : d = c := Term.call.inj hdc
    have hs := s.disjunction?_call?
    rw [hd] at hs
    exact hs
  | joined path cs => exact nomatch Option.some.inj hp

/-! ## A document means what its parts mean -/

/-- Scripts without a fault make their calls, one after another. -/
theorem Script.calls_concat {ss : List Script}
    (h : ∀ s ∈ ss, s.fault = none) :
    calls (Trail.concat ss) = ss.flatMap calls := by
  induction ss with
  | nil => rfl
  | cons s ss ih =>
    have hs := h s (List.mem_cons_self ..)
    rw [Trail.concat_cons, calls, Trail.items_append_of_fault_eq_none hs,
      List.filterMap_append, List.flatMap_cons,
      ← ih fun t ht => h t (List.mem_cons_of_mem s ht)]
    rfl

namespace Valuation

variable (w : Valuation)

/-- The meaning of a part of an outline. -/
def part : Part → Prop
  | .alone s => ∀ c, s.outcome.call? = some c → w.call c
  | .joined _ cs => ∃ c ∈ cs, w.orClause c

/-- A member that joins no clauses means what its parts mean. -/
theorem entry_iff (path : String) (k : Key) (v : Value)
    (h : ∀ p ∈ (Site.ofOther path k v).map Part.alone,
      p.script.fault = none) :
    w.entry k v ↔ ∀ p ∈ (Site.ofOther path k v).map Part.alone, w.part p := by
  have hcalls : Script.calls (Filter.otherScript k v)
      = ((Site.ofOther path k v).map Part.alone).flatMap
          fun p => p.call?.toList := by
    rw [Filter.otherScript_eq path, Script.calls_concat, List.flatMap_map]
    · exact List.flatMap_congr fun p _ => p.calls_script
    · intro s hs
      obtain ⟨p, hp, rfl⟩ := List.mem_map.mp hs
      exact h p hp
  rw [entry, hcalls]
  constructor
  · intro hall p hp
    obtain ⟨s, -, rfl⟩ := List.mem_map.mp hp
    exact fun c hc => hall c (List.mem_flatMap.mpr
      ⟨_, hp, Option.mem_toList.mpr hc⟩)
  · intro hall c hc
    obtain ⟨p, hp, hpc⟩ := List.mem_flatMap.mp hc
    obtain ⟨s, -, rfl⟩ := List.mem_map.mp hp
    exact hall _ hp c (Option.mem_toList.mp hpc)

mutual

/-- **A document holds if each part of its outline does**, provided none of
them ends the translation. -/
theorem members_iff (stem : String) : (ms : List (Key × Value)) →
    (∀ p ∈ Outline.members stem ms, p.script.fault = none) →
    (w.members ms ↔ ∀ p ∈ Outline.members stem ms, w.part p)
  | [], _ => by simp [members, Outline.members]
  | (k, v) :: ms, h => by
    rw [Outline.members] at h ⊢
    rw [List.forall_mem_append] at h ⊢
    rw [members, member_iff stem k v h.1, members_iff stem ms h.2]

theorem member_iff (stem : String) (k : Key) : (v : Value) →
    (∀ p ∈ Outline.member stem k v, p.script.fault = none) →
    (w.member k v ↔ ∀ p ∈ Outline.member stem k v, w.part p)
  | .seq f cs, h => by
    unfold Outline.member at h ⊢
    unfold member
    cases ho : k.operator? with
    | none =>
      rw [ho] at h
      exact w.entry_iff _ k (.seq f cs) h
    | some op =>
      rw [ho] at h
      cases op with
      | and => exact clauses_iff (stem ++ k.display) 0 cs h
      | or =>
        show _ ↔ ∀ p ∈ [Part.joined (stem ++ k.display) cs], w.part p
        rw [List.forall_mem_singleton]
        rfl
      | _ => exact w.entry_iff _ k (.seq f cs) h
  | .atom a, h => w.entry_iff (stem ++ k.display) k (.atom a) h
  | .doc ms, h => w.entry_iff (stem ++ k.display) k (.doc ms) h

theorem clauses_iff (path : String) (position : Nat) :
    (cs : List Value) →
    (∀ p ∈ Outline.clauses path position cs, p.script.fault = none) →
    (w.clauses cs ↔ ∀ p ∈ Outline.clauses path position cs, w.part p)
  | [], _ => by simp [clauses, Outline.clauses]
  | c :: cs, h => by
    rw [Outline.clauses] at h ⊢
    rw [List.forall_mem_append] at h ⊢
    rw [clauses, clause_iff _ c h.1, clauses_iff path (position + 1) cs h.2]

theorem clause_iff (path : String) : (c : Value) →
    (∀ p ∈ Outline.clause path c, p.script.fault = none) →
    (w.clause c ↔ ∀ p ∈ Outline.clause path c, w.part p)
  | .doc ms, h => members_iff (path ++ ".") ms h
  | .atom _, _ =>
    iff_of_true trivial (List.forall_mem_singleton.mpr fun _ hc => nomatch hc)
  | .seq _ _, _ =>
    iff_of_true trivial (List.forall_mem_singleton.mpr fun _ hc => nomatch hc)

end

end Valuation

/-! ## Clauses that lose nothing -/

/-- How many tests a condition makes. -/
def Condition.size : Condition → Nat
  | plain _ => 1
  | operators ts => ts.length

/-- **How many conditions a clause of an `$or` carries**, over all of its
fields. -/
def Value.conditionCount : Value → Nat
  | .doc ms => ms.foldr (fun m count => m.2.condition.size + count) 0
  | _ => 0

/-- Every value makes at least one test: an operator document has a marked
key. -/
theorem Value.size_condition_pos (v : Value) : 0 < v.condition.size := by
  cases hv : v.condition with
  | plain w => exact Nat.one_pos
  | operators ts =>
    obtain rfl := Value.eq_of_condition_operators hv
    cases ts with
    | nil => exact nomatch hv
    | cons t ts => exact Nat.succ_pos ts.length

/-- A clause that is not empty carries a condition. -/
theorem Value.conditionCount_pos {ms : List (Key × Value)} (h : ms ≠ []) :
    0 < (Value.doc ms).conditionCount := by
  cases ms with
  | nil => exact absurd rfl h
  | cons m ms => exact Nat.add_pos_left m.2.size_condition_pos _

namespace Disjunction

/-- A clause has as many outcomes as conditions. -/
theorem length_clauseOutcomes (ms : List (Key × Value)) :
    (clauseOutcomes ms).length = (Value.doc ms).conditionCount := by
  induction ms with
  | nil => rfl
  | cons m ms ih =>
    have hfield : (fieldOutcomes m.1.toValue m.2).length
        = m.2.condition.size := by
      unfold fieldOutcomes
      cases m.2.condition with
      | plain v => rfl
      | operators ts => exact List.length_map _
    rw [clauseOutcomes, List.flatMap_cons, List.length_append, hfield]
    exact congrArg (m.2.condition.size + ·) ih

/-- Outcomes without a note are all fragments. -/
theorem length_fragmentsOf {os : List (Except Note Fragment)}
    (h : notesOf os = []) : (fragmentsOf os).length = os.length := by
  induction os with
  | nil => rfl
  | cons o os ih =>
    cases o with
    | ok f => exact congrArg Nat.succ (ih h)
    | error n => exact nomatch h

/-- **A clause that loses nothing keeps a fragment for each of its
conditions.** -/
theorem length_fragments_clause {cs : List Value} (h : notes cs = [])
    {c : Value} (hc : c ∈ cs) :
    ∃ ms, c = .doc ms
      ∧ (fragmentsOf (elementOutcomes c)).length = c.conditionCount := by
  have hnotes : notesOf (elementOutcomes c) = [] := by
    rw [notes, outcomes, notesOf, List.filterMap_flatMap,
      List.flatMap_eq_nil_iff] at h
    exact h c hc
  cases c with
  | doc ms =>
    refine ⟨ms, rfl, ?_⟩
    rw [length_fragmentsOf hnotes, ← length_clauseOutcomes]
    rfl
  | atom a => exact absurd hnotes (List.cons_ne_nil _ _)
  | seq f vs => exact absurd hnotes (List.cons_ne_nil _ _)

end Disjunction

namespace Valuation

variable (w : Valuation)

/-- The fragments of an `$or` are those of its clauses. -/
theorem anyOf_iff (cs : List Value) :
    w.term (.anyOf (Disjunction.fragments cs))
      ↔ ∃ c ∈ cs, ∃ f ∈ Disjunction.fragmentsOf
          (Disjunction.elementOutcomes c), w.fragment f := by
  show (∃ f ∈ Disjunction.fragmentsOf (cs.flatMap _), w.fragment f) ↔ _
  rw [Disjunction.fragmentsOf_flatMap]
  simp only [List.mem_flatMap]
  constructor
  · rintro ⟨f, ⟨c, hc, hf⟩, hw⟩
    exact ⟨c, hc, f, hf, hw⟩
  · rintro ⟨c, hc, f, hf, hw⟩
    exact ⟨f, ⟨c, hc, hf⟩, hw⟩

/-- **A clause that holds makes its `$or` hold**, if it has a fragment. -/
theorem anyOf_of_orClause {cs : List Value} {c : Value} (hc : c ∈ cs)
    (hpos : 0 < (Disjunction.fragmentsOf
      (Disjunction.elementOutcomes c)).length) (h : w.orClause c) :
    w.term (.anyOf (Disjunction.fragments cs)) := by
  obtain ⟨f, hf⟩ := List.exists_mem_of_length_pos hpos
  exact (w.anyOf_iff cs).mpr ⟨c, hc, f, hf, h f hf⟩

/-- **With one fragment to each clause** an `$or` says what it says in
writing. -/
theorem anyOf_iff_of_singletons {cs : List Value}
    (h : ∀ c ∈ cs, (Disjunction.fragmentsOf
      (Disjunction.elementOutcomes c)).length = 1) :
    w.term (.anyOf (Disjunction.fragments cs))
      ↔ ∃ c ∈ cs, w.orClause c := by
  rw [anyOf_iff]
  refine exists_congr fun c => and_congr_right fun hc => ?_
  obtain ⟨f, hf⟩ := List.length_eq_one_iff.mp (h c hc)
  rw [orClause, hf]
  simp

end Valuation

/-! ## Filter and query -/

/-- The clauses of a part that is reached are among those of the `$or`s of
the filter. -/
theorem Value.mem_disjunctions {v : Value} {path : String} {cs : List Value}
    (h : Part.joined path cs ∈ v.reached) : cs ∈ v.disjunctions :=
  List.mem_filterMap.mpr ⟨_, h, rfl⟩

namespace Valuation

variable (w : Valuation)

/-- A filter that can be translated means what its parts mean. -/
theorem document_iff {v : Value} (h : (Filter.script v).fault = none) :
    w.document v ↔ ∀ p ∈ v.reached, w.part p := by
  rw [Filter.reached_eq_outline h]
  obtain ⟨⟨ms, rfl⟩, hparts⟩ := Filter.exists_doc_of_fault_eq_none h
  exact w.members_iff "" ms hparts

/-- A query means what the terms of the parts mean. -/
theorem query_iff (v : Value) :
    w.query v.query ↔ ∀ p ∈ v.reached, ∀ t ∈ p.term?, w.term t := by
  constructor
  · intro h p hp t ht
    exact h t (List.mem_filterMap.mpr ⟨p, hp, ht⟩)
  · intro h t ht
    obtain ⟨p, hp, hpt⟩ := List.mem_filterMap.mp ht
    exact h p hp t hpt

/-- A part that is no `$or` means what its term means. -/
theorem part_alone_iff (s : Site) :
    w.part (.alone s) ↔ ∀ t ∈ (Part.alone s).term?, w.term t := by
  constructor
  · intro h t ht
    obtain ⟨c, hc, rfl⟩ := Option.map_eq_some_iff.mp ht
    exact h c hc
  · intro h c hc
    exact h (.call c) (Option.map_eq_some_iff.mpr ⟨c, hc, rfl⟩)

variable {path : String} {cs : List Value}

/-- **An `$or` that holds makes its term hold**, if nothing is left out of
it and no clause is empty. -/
theorem term_of_part_joined (hnotes : Disjunction.notes cs = [])
    (hne : ∀ c ∈ cs, c ≠ .doc []) (h : w.part (.joined path cs)) :
    ∀ t ∈ (Part.joined path cs).term?, w.term t := by
  intro t ht
  obtain rfl := Option.some.inj ht
  obtain ⟨c, hc, hold⟩ := h
  obtain ⟨ms, rfl, hlength⟩ :=
    Disjunction.length_fragments_clause hnotes hc
  refine w.anyOf_of_orClause hc ?_ hold
  rw [hlength]
  exact Value.conditionCount_pos fun hms =>
    hne _ hc (congrArg Value.doc hms)

/-- **An `$or` means what its term means**, if nothing is left out of it and
each clause carries one condition. -/
theorem part_joined_iff (hnotes : Disjunction.notes cs = [])
    (hone : ∀ c ∈ cs, c.conditionCount = 1) :
    w.part (.joined path cs)
      ↔ ∀ t ∈ (Part.joined path cs).term?, w.term t := by
  have hsingle : ∀ c ∈ cs, (Disjunction.fragmentsOf
      (Disjunction.elementOutcomes c)).length = 1 := by
    intro c hc
    obtain ⟨ms, rfl, hlength⟩ :=
      Disjunction.length_fragments_clause hnotes hc
    rw [hlength, hone _ hc]
  show (∃ c ∈ cs, w.orClause c) ↔ _
  rw [← w.anyOf_iff_of_singletons hsingle]
  exact ⟨fun h t ht => Option.some.inj ht ▸ h, fun h => h _ rfl⟩

end Valuation

namespace Filter

/-- A filter with an empty report leaves no notes for its `$or`s. -/
theorem notes_of_mem_disjunctions {v : Value} {cs : List Value}
    (hfault : (script v).fault = none) (hreport : v.omissions = .ok [])
    (hcs : cs ∈ v.disjunctions) : Disjunction.notes cs = [] := by
  rw [omissions_eq hfault] at hreport
  have hsites := List.filterMap_eq_nil_iff.mp (Except.ok.inj hreport)
  obtain ⟨p, hp, hpc⟩ := List.mem_filterMap.mp hcs
  rw [reached_eq_outline hfault] at hp
  cases p with
  | alone s => exact nomatch hpc
  | joined path ds =>
    obtain rfl : ds = cs := Option.some.inj hpc
    rw [Disjunction.notes_eq path]
    refine List.filterMap_eq_nil_iff.mpr fun s hs => ?_
    have homitted := hsites s (List.mem_flatMap.mpr ⟨_, hp, hs⟩)
    cases hr : s.outcome with
    | leftOut n o =>
      rw [hr] at homitted
      exact nomatch homitted
    | _ => rfl

/-- **A query keeps every row of its filter.** Let a filter with an empty
report be translated whole, on any builder, and let no clause of its `$or`s
be empty. Under every valuation,

* the calls that are made are those of the terms of the query – calls about
  columns, and one call for the fragments of each `$or`;
* if the filter holds, the query holds;
* if every clause of an `$or` carries one condition, the filter holds if and
  only if the query does. -/
theorem query_of_document (w : Valuation) {v : Value} {refuses : Refusals}
    {b b' : Builder} (hrun : ((script v).run refuses b).result = .ok b')
    (hreport : v.omissions = .ok [])
    (hclauses : ∀ cs ∈ v.disjunctions, ∀ c ∈ cs, c ≠ .doc []) :
    ((script v).run refuses b).entries
        = b.deliveries (v.query.map Term.toCall)
      ∧ (∀ c, .call c ∈ v.query → c.disjunction? = none)
      ∧ (w.document v → w.query v.query)
      ∧ ((∀ cs ∈ v.disjunctions, ∀ c ∈ cs, c.conditionCount = 1) →
          (w.document v ↔ w.query v.query)) := by
  have hnone := Script.run_eq_run_none hrun
  have hfault : (script v).fault = none :=
    Script.fault_eq_none_of_run_none (hnone ▸ hrun)
  have hnotes {cs : List Value} (hcs : cs ∈ v.disjunctions) :
      Disjunction.notes cs = [] :=
    notes_of_mem_disjunctions hfault hreport hcs
  refine ⟨?_, fun c hc => disjunction?_of_mem_query hc, ?_, ?_⟩
  · rw [hnone, Script.run_none, calls_eq_query]
  · rw [w.document_iff hfault, w.query_iff]
    intro hparts p hp
    cases p with
    | alone s => exact (w.part_alone_iff s).mp (hparts _ hp)
    | joined path cs =>
      have hcs := Value.mem_disjunctions hp
      exact w.term_of_part_joined (hnotes hcs) (hclauses cs hcs)
        (hparts _ hp)
  · intro hone
    rw [w.document_iff hfault, w.query_iff]
    refine forall_congr' fun p => forall_congr' fun hp => ?_
    cases p with
    | alone s => exact w.part_alone_iff s
    | joined path cs =>
      have hcs := Value.mem_disjunctions hp
      exact w.part_joined_iff (hnotes hcs) (hone cs hcs)

/-- An `$or` inside an `$and`, with one condition to each clause. A row that
passes the tests on `age` and `b` passes the filter, and so the query. -/
theorem query_of_document_nested :
    let age : Value := .doc [(.text "$gte", .int 18), (.text "$lt", .int 65)]
    let b : Value := .doc [(.text "b", .doc [(.text "$gt", .int 5)])]
    let v : Value := .doc
      [(.text "age", age),
       (.text "$and", .list [.doc [(.text "$or", .list
         [.doc [(.text "a", .null)], b])]])]
    let w : Valuation :=
      ⟨fun c => c.column? = some (.text "age"),
       fun f => f = ⟨.text "b", "gt", "5"⟩⟩
    ((script v).run Refusals.none ⟨.plain, 0⟩).result = .ok ⟨.plain, 3⟩
      ∧ v.omissions = .ok []
      ∧ w.document v ∧ w.query v.query
      ∧ (w.document v ↔ w.query v.query) := by
  intro age b v w
  have hreport : v.omissions = .ok [] := by decide
  have hclauses : ∀ cs ∈ v.disjunctions, ∀ c ∈ cs, c ≠ .doc [] := by decide
  have hrun : ((script v).run Refusals.none ⟨.plain, 0⟩).result
      = .ok ⟨.plain, 3⟩ := rfl
  obtain ⟨-, -, hkept, hsame⟩ :=
    query_of_document w hrun hreport hclauses
  have hage : ∀ c ∈ Script.calls (otherScript (.text "age") age),
      c.column? = some (.text "age") := by decide
  have hb : ∀ f ∈ Disjunction.fragmentsOf (Disjunction.elementOutcomes b),
      f = ⟨.text "b", "gt", "5"⟩ := by decide
  have hdoc : w.document v :=
    ⟨hage, ⟨⟨⟨b, by simp, hb⟩, trivial⟩, trivial⟩, trivial⟩
  exact ⟨hrun, hreport, hdoc, hkept hdoc, hsame (by decide)⟩

/-- A clause with two conditions loses its border: where only the first of
them holds, the query holds and the filter does not. -/
theorem query_without_document :
    let v : Value := .doc [(.text "$or", .list
      [.doc [(.text "a", .int 1), (.text "b", .int 2)]])]
    let w : Valuation := ⟨fun _ => True, fun f => f.column = .text "a"⟩
    v.omissions = .ok [] ∧ w.query v.query ∧ ¬w.document v := by
  intro v w
  refine ⟨by decide, ?_, ?_⟩
  · intro t ht
    obtain rfl := List.mem_singleton.mp ht
    exact ⟨_, List.mem_cons_self .., rfl⟩
  · rintro ⟨⟨c, hc, hall⟩, -⟩
    obtain rfl := List.mem_singleton.mp hc
    have hb := hall ⟨.text "b", "eq", "2"⟩ (by decide)
    exact absurd hb (by decide)

end Filter

end DocFilter
