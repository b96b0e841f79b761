import DocFilter.Proofs.Fates
import DocFilter.Proofs.Translation

/-!
# The order of keys

A document holds its members in the order they were written, and so do the
operator documents of its fields. Two documents that differ in these orders
alone – at any depth an `$and` with a list leads to, and nowhere inside an
`$or` – are **reordered** (`Filter.Reordered`). Lists keep their order, so a
path names the same element in both.

No member is handled in view of those before it. Reordering therefore
permutes the outline (`Outline.members_perm`): the parts are the same, each
with its path, its outcomes and its `$or` text. A translation goes through
if every part lets it, which has nothing to do with their order, and then
its calls are the calls of the parts; so they are permuted as the parts are,
and so are the entries of the report (`Filter.order_irrelevant`).

What does change is the fault of a document with two obstacles, since the
first one is met: only whether there is a fault stays.
-/

namespace DocFilter

namespace Filter

mutual

/-- **Two documents with the same members in another order**, at any depth
outside of `$or`. -/
inductive Reordered : List (Key × Value) → List (Key × Value) → Prop where
  | nil : Reordered [] []
  | cons {k : Key} {v w : Value} {ms ns : List (Key × Value)}
    (hv : MemberReordered k v w) (hms : Reordered ms ns) :
    Reordered ((k, v) :: ms) ((k, w) :: ns)
  /-- Two members change places. -/
  | swap (m n : Key × Value) (ms : List (Key × Value)) :
    Reordered (m :: n :: ms) (n :: m :: ms)
  | trans {ms ns os : List (Key × Value)}
    (hmn : Reordered ms ns) (hno : Reordered ns os) : Reordered ms os

/-- The values of a member before and after. -/
inductive MemberReordered : Key → Value → Value → Prop where
  | same (k : Key) (v : Value) : MemberReordered k v v
  /-- The tests of an operator document come in another order. -/
  | tests (k : Key) {ts us : List (Key × Value)}
    (htests : (Value.doc ts).hasTests = true) (h : ts.Perm us) :
    MemberReordered k (.doc ts) (.doc us)
  /-- The documents in an `$and` are reordered, each at its position. -/
  | and (f : SeqForm) {cs ds : List Value} (h : ClausesReordered cs ds) :
    MemberReordered (.text "$and") (.seq f cs) (.seq f ds)

/-- The elements of an `$and` before and after. -/
inductive ClausesReordered : List Value → List Value → Prop where
  | nil : ClausesReordered [] []
  | cons {c d : Value} {cs ds : List Value}
    (hc : ClauseReordered c d) (hcs : ClausesReordered cs ds) :
    ClausesReordered (c :: cs) (d :: ds)

/-- One element of an `$and` before and after. -/
inductive ClauseReordered : Value → Value → Prop where
  | same (c : Value) : ClauseReordered c c
  | doc {ms ns : List (Key × Value)} (h : Reordered ms ns) :
    ClauseReordered (.doc ms) (.doc ns)

end

end Filter

/-- A document is a reordering of itself. -/
theorem Filter.Reordered.refl (ms : List (Key × Value)) :
    Filter.Reordered ms ms := by
  induction ms with
  | nil => exact .nil
  | cons m ms ih => exact .cons (.same m.1 m.2) ih

/-- **The same members in any order** are a reordering. -/
theorem Filter.Reordered.of_perm {ms ns : List (Key × Value)}
    (h : ms.Perm ns) : Filter.Reordered ms ns := by
  induction h with
  | nil => exact .nil
  | cons m _ ih => exact .cons (.same m.1 m.2) ih
  | swap m n ms => exact .swap n m ms
  | trans _ _ ihmn ihno => exact .trans ihmn ihno

/-- An operator document is one in any order. -/
theorem Value.condition_of_perm {ts us : List (Key × Value)}
    (htests : (Value.doc ts).hasTests = true) (h : ts.Perm us) :
    (Value.doc us).condition = .operators us := by
  have hus : (Value.doc us).hasTests = true := h.any_eq.symm.trans htests
  exact if_pos hus

/-- The sites of an operator document are permuted as its tests are. -/
theorem Site.ofOther_perm (path : String) (k : Key)
    {ts us : List (Key × Value)}
    (htests : (Value.doc ts).hasTests = true) (h : ts.Perm us) :
    (ofOther path k (.doc ts)).Perm (ofOther path k (.doc us)) := by
  unfold ofOther
  cases k.hasMark with
  | error f => exact .refl _
  | ok marked =>
    cases marked with
    | true => exact .refl _
    | false =>
      dsimp only
      rw [ofField, ofField, ofCondition, ofCondition,
        Value.condition_of_perm htests (.refl ts),
        Value.condition_of_perm htests h]
      exact h.map _

namespace Outline

mutual

/-- **Reordering a document permutes its outline.** -/
theorem members_perm (stem : String) : {ms ns : List (Key × Value)} →
    Filter.Reordered ms ns → (members stem ms).Perm (members stem ns)
  | _, _, .nil => .refl _
  | _, _, .cons hv hms =>
    (member_perm stem hv).append (members_perm stem hms)
  | _, _, .swap m n ms => List.perm_append_comm_assoc
    (member stem m.1 m.2) (member stem n.1 n.2) (members stem ms)
  | _, _, .trans hmn hno =>
    (members_perm stem hmn).trans (members_perm stem hno)

theorem member_perm (stem : String) : {k : Key} → {v w : Value} →
    Filter.MemberReordered k v w →
    (member stem k v).Perm (member stem k w)
  | _, _, _, .same _ _ => .refl _
  | _, _, _, .tests k htests h =>
    (Site.ofOther_perm (stem ++ k.display) k htests h).map Part.alone
  | _, _, _, .and _ h => clauses_perm _ 0 h

theorem clauses_perm (path : String) (position : Nat) :
    {cs ds : List Value} → Filter.ClausesReordered cs ds →
    (clauses path position cs).Perm (clauses path position ds)
  | _, _, .nil => .refl _
  | _, _, .cons hc hcs =>
    (clause_perm (Report.clausePath path position) hc).append
      (clauses_perm path (position + 1) hcs)

theorem clause_perm (path : String) : {c d : Value} →
    Filter.ClauseReordered c d → (clause path c).Perm (clause path d)
  | _, _, .same _ => .refl _
  | _, _, .doc h => members_perm (path ++ ".") h

end

end Outline

/-! ## Runs and reports -/

/-- **The messages that a run sends**, whichever generation receives
them. -/
def Run.messages {α : Type} (r : Run α) : List Message :=
  (r.entries.filterMap Entry.message?).map Prod.snd

/-- What arrives of some calls are their messages. -/
theorem Builder.messages_deliveries (b : Builder) (calls : List Call) :
    ((b.deliveries calls).filterMap Entry.message?).map Prod.snd
      = calls.map b.dialect.encode := by
  induction calls generalizing b with
  | nil => rfl
  | cons c calls ih => exact congrArg (b.dialect.encode c :: ·) (ih b.next)

namespace Filter

variable {ms ns : List (Key × Value)}

/-- The parts of a reordered document are those of the document. -/
theorem Reordered.outline_perm (h : Reordered ms ns) :
    (Value.doc ms).outline.Perm (Value.doc ns).outline :=
  Outline.members_perm "" h

/-- A translation of a document ends in no fault if no part has one. -/
theorem fault_script_eq_none_iff (ms : List (Key × Value)) :
    (script (.doc ms)).fault = none
      ↔ ∀ p ∈ (Value.doc ms).outline, p.script.fault = none := by
  rw [script_doc, Trail.fault_concat_eq_none_iff, List.forall_mem_map]

/-- A report on a document ends in no fault if no part has one. -/
theorem fault_report_eq_none_iff (ms : List (Key × Value)) :
    (Report.ofFilter (.doc ms)).fault = none
      ↔ ∀ p ∈ (Value.doc ms).outline, p.report.fault = none := by
  show (Report.members "" ms).fault = none ↔ _
  rw [Report.members_eq, Trail.fault_concat_eq_none_iff, List.forall_mem_map]
  rfl

/-- A reordered document is translated if the document is. -/
theorem Reordered.fault_script_iff (h : Reordered ms ns) :
    (script (.doc ms)).fault = none ↔ (script (.doc ns)).fault = none := by
  rw [fault_script_eq_none_iff, fault_script_eq_none_iff]
  exact forall_congr' fun p => imp_congr_left h.outline_perm.mem_iff

/-- A reordered document is reported on if the document is. -/
theorem Reordered.fault_report_iff (h : Reordered ms ns) :
    (Report.ofFilter (.doc ms)).fault = none
      ↔ (Report.ofFilter (.doc ns)).fault = none := by
  rw [fault_report_eq_none_iff, fault_report_eq_none_iff]
  exact forall_congr' fun p => imp_congr_left h.outline_perm.mem_iff

/-- **The calls of a reordered document** are those of the document, as far
as it is translated at all. -/
theorem Reordered.calls_perm (h : Reordered ms ns)
    (hfault : (script (.doc ms)).fault = none) :
    (script (.doc ms)).calls.Perm (script (.doc ns)).calls := by
  rw [calls_script, calls_script, reached_eq_outline hfault,
    reached_eq_outline (h.fault_script_iff.mp hfault)]
  exact h.outline_perm.filterMap Part.call?

/-- **The omissions of a reordered document** are those of the
document. -/
theorem Reordered.omissions_perm (h : Reordered ms ns)
    {os : List Omission} (hos : (Value.doc ms).omissions = .ok os) :
    ∃ os', (Value.doc ns).omissions = .ok os' ∧ os.Perm os' := by
  have hfault : (Report.ofFilter (.doc ms)).fault = none := by
    unfold Value.omissions Trail.toExcept at hos
    split at hos
    · assumption
    · exact nomatch hos
  rw [omissions_of_fault_eq_none hfault] at hos
  refine ⟨_, omissions_of_fault_eq_none (h.fault_report_iff.mp hfault), ?_⟩
  rw [← Except.ok.inj hos]
  exact ((h.outline_perm.flatMap_right Part.sites).map _).filterMap _

/-- A run on a builder that refuses nothing fails with the script. -/
theorem run_none_isError_iff (s : Script) (b : Builder) :
    (∃ f, (s.run Refusals.none b).result = .error f) ↔ s.fault ≠ none := by
  rw [Script.run_none]
  cases s.fault <;> simp

/-- A report fails with its fault. -/
theorem omissions_isError_iff (v : Value) :
    (∃ f, v.omissions = .error f) ↔ (Report.ofFilter v).fault ≠ none := by
  unfold Value.omissions Trail.toExcept
  cases (Report.ofFilter v).fault <;> simp

/-- **The order of keys does not matter outside of `$or`.** Of a document
and a reordered one, on a builder that refuses nothing,

* both are translated or neither is, and then both end on the same builder
  with the same messages sent, each as often;
* both are reported on or neither is, and then the reports have the same
  entries, each as often. -/
theorem order_irrelevant {ms ns : List (Key × Value)}
    (h : Reordered ms ns) (b : Builder) :
    let r := (script (.doc ms)).run Refusals.none b
    let r' := (script (.doc ns)).run Refusals.none b
    ((∃ f, r.result = .error f) ↔ ∃ f, r'.result = .error f)
      ∧ (∀ b', r.result = .ok b' →
          r'.result = .ok b' ∧ r.messages.Perm r'.messages)
      ∧ ((∃ f, (Value.doc ms).omissions = .error f)
          ↔ ∃ f, (Value.doc ns).omissions = .error f)
      ∧ ∀ os, (Value.doc ms).omissions = .ok os →
          ∃ os', (Value.doc ns).omissions = .ok os' ∧ os.Perm os' := by
  intro r r'
  refine ⟨?_, fun b' hb' => ?_, ?_, fun os => h.omissions_perm⟩
  · rw [run_none_isError_iff, run_none_isError_iff]
    exact not_congr h.fault_script_iff
  · have hfault := Script.fault_eq_none_of_run_none hb'
    have hcalls := h.calls_perm hfault
    constructor
    · -- As many calls lead to the same generation.
      rw [Script.eq_after_of_run_none hb', hcalls.length_eq]
      show (Script.run _ _ _).result = _
      rw [Script.run_none, h.fault_script_iff.mp hfault]
    · unfold Run.messages
      show (List.map _ (List.filterMap _ (Script.run _ _ _).entries)).Perm
        (List.map _ (List.filterMap _ (Script.run _ _ _).entries))
      rw [Script.run_none, Script.run_none, Builder.messages_deliveries,
        Builder.messages_deliveries]
      exact hcalls.map _
  · rw [omissions_isError_iff, omissions_isError_iff]
    exact not_congr h.fault_report_iff

/-- A field with three tests, an `$and` around a document and a number, and
an `$or`. -/
def asWritten : List (Key × Value) :=
  [(.text "age", .doc [(.text "$gte", .int 18), (.text "$size", .int 2),
     (.text "$lt", .int 65)]),
   (.text "$and", .list
     [.doc [(.text "x", .null), (.text "$nor", .list [])], .int 7]),
   (.text "$or", .list [.doc [(.text "a", .int 1), (.text "b", .null)]])]

/-- The same members from the last to the first, with the tests and the
document in the `$and` in another order too. -/
def asRewritten : List (Key × Value) :=
  [(.text "$or", .list [.doc [(.text "a", .int 1), (.text "b", .null)]]),
   (.text "$and", .list
     [.doc [(.text "$nor", .list []), (.text "x", .null)], .int 7]),
   (.text "age", .doc [(.text "$lt", .int 65), (.text "$gte", .int 18),
     (.text "$size", .int 2)])]

/-- Both send four messages and report three omissions, in two orders. -/
theorem order_irrelevant_rewritten :
    let r := (script (.doc asWritten)).run Refusals.none ⟨.plain, 0⟩
    let r' := (script (.doc asRewritten)).run Refusals.none ⟨.plain, 0⟩
    Reordered asWritten asRewritten
      ∧ r.result = .ok ⟨.plain, 4⟩ ∧ r'.result = .ok ⟨.plain, 4⟩
      ∧ r.messages ≠ r'.messages ∧ r.messages.Perm r'.messages
      ∧ ∃ os', (Value.doc asRewritten).omissions = .ok os'
        ∧ [⟨"age", .text "$size", .noCall⟩,
           ⟨"$and[0].$nor", .text "$nor", .noConnective⟩,
           ⟨"$and[1]", .text "$and", .needsDocument⟩].Perm os' := by
  intro r r'
  have htop : Reordered asWritten asWritten.reverse :=
    .of_perm (List.reverse_perm asWritten).symm
  have hinside : Reordered asWritten.reverse asRewritten :=
    .cons (.same _ _) (.cons
      (.and .list (.cons (.doc (.of_perm (by decide)))
        (.cons (.same _) .nil)))
      (.cons (.tests _ rfl (by decide)) .nil))
  have h : Reordered asWritten asRewritten := .trans htop hinside
  obtain ⟨-, hruns, -, hreports⟩ := order_irrelevant h ⟨.plain, 0⟩
  have hresult : r.result = .ok ⟨.plain, 4⟩ := by decide
  obtain ⟨hresult', hmessages⟩ := hruns _ hresult
  exact ⟨h, hresult, hresult', by decide, hmessages,
    hreports _ (by decide)⟩

end Filter

end DocFilter
