import Mathlib.Data.List.Basic
import Mathlib.Data.List.TakeWhile
import DocFilter.Proofs.Refusals
import DocFilter.Proofs.Walks

/-!
# A translation read off the outline

The calls of a translation are those of the parts it reaches
(`Filter.calls_script`), and its notes are those of their sites
(`Filter.notes_script`): a part either goes through or ends the translation
with nothing of its own done.

A translation without a fault reaches every part, and then the report ends
in no fault either and lists the omissions of all sites
(`Filter.omissions_eq`). The converse fails – a `$regex` without a pattern
ends the translation and not the report.
-/

namespace DocFilter

/-- Whether a part lets a translation go on. -/
def Part.passes (p : Part) : Bool := p.script.fault.isNone

/-- **The parts a translation reaches**: those before the first that ends
it. -/
def Value.reached (v : Value) : List Part := v.outline.takeWhile Part.passes

namespace Filter

/-- The script of an `$or` has no fault. -/
theorem fault_orScript (cs : List Value) : (orScript cs).fault = none := rfl

/-- The script of an `$or` is one call. -/
theorem calls_orScript (cs : List Value) :
    (orScript cs).calls = [.or (.text (Disjunction.text cs))] := by
  show ((Disjunction.notes cs).map Step.tell ++ [Step.send _]).filterMap _
    = _
  rw [List.filterMap_append, List.filterMap_map]
  simp

/-- The script of an `$or` leaves the notes of what it leaves out. -/
theorem notes_orScript (cs : List Value) :
    (orScript cs).notes = Disjunction.notes cs := by
  show ((Disjunction.notes cs).map Step.tell ++ [Step.send _]).filterMap _
    = _
  rw [List.filterMap_append, List.filterMap_map]
  simp

end Filter

namespace Part

/-- A part that ends a translation does nothing before. -/
theorem items_script_of_fault {p : Part} (h : p.script.fault ≠ none) :
    p.script.items = [] := by
  cases p with
  | alone s =>
    change s.outcome.script.fault ≠ none at h
    show s.outcome.script.items = []
    cases hs : s.outcome with
    | stopped f => rfl
    | written f => rfl
    | called c => exact absurd (by rw [hs]; rfl) h
    | leftOut n o => exact absurd (by rw [hs]; rfl) h
  | joined path cs => exact absurd (Filter.fault_orScript cs) h

/-- A part asks for at most one call. -/
theorem calls_script (p : Part) : p.script.calls = p.call?.toList := by
  cases p with
  | alone s =>
    show s.outcome.script.calls = s.outcome.call?.toList
    cases s.outcome <;> rfl
  | joined path cs =>
    rw [call?_joined]
    exact Filter.calls_orScript cs

/-- A part leaves the notes of its sites. -/
theorem notes_script (p : Part) :
    p.script.notes = p.sites.filterMap fun s => s.outcome.note? := by
  cases p with
  | alone s =>
    show s.outcome.script.notes = [s].filterMap fun s => s.outcome.note?
    rw [List.filterMap_cons, List.filterMap_nil]
    cases s.outcome <;> rfl
  | joined path cs =>
    rw [← Disjunction.notes_eq path cs]
    exact Filter.notes_orScript cs

/-- What the report on a part lists, if it does not end there. -/
theorem items_report {p : Part} (h : p.script.fault = none) :
    p.report.fault = none
      ∧ p.report.items
          = p.sites.filterMap fun s => s.outcome.omission? := by
  cases p with
  | joined path cs => exact ⟨rfl, rfl⟩
  | alone s =>
    change s.outcome.script.fault = none at h
    show s.report.fault = none
      ∧ s.report.items = [s].filterMap fun s => s.outcome.omission?
    rw [List.filterMap_cons, List.filterMap_nil]
    cases s with
    | unreadable f => exact absurd h (by simp [Site.outcome, Outcome.script,
        Trail.stop])
    | plain k v => exact ⟨rfl, rfl⟩
    | reserved path k => exact ⟨rfl, rfl⟩
    | strayConjunct path v => exact ⟨rfl, rfl⟩
    | orPlain k v => exact ⟨rfl, rfl⟩
    | strayDisjunct path v => exact ⟨rfl, rfl⟩
    | test path k tag v =>
      refine ⟨rfl, ?_⟩
      show (Site.outcome _).omission?.toList = _
      cases (Site.test path k tag v).outcome.omission? <;> rfl
    | orTest path k tag v =>
      refine ⟨rfl, ?_⟩
      show (Site.outcome _).omission?.toList = _
      cases (Site.orTest path k tag v).outcome.omission? <;> rfl

end Part

namespace Filter

/-- The translation of a document is the concatenation of what the parts
of its outline ask for. -/
theorem script_doc (ms : List (Key × Value)) :
    script (.doc ms)
      = Trail.concat ((Value.doc ms).outline.map Part.script) :=
  membersScript_eq "" ms

/-- **The steps of a translation are those of the parts it reaches.** -/
theorem items_script (v : Value) :
    (script v).items = v.reached.flatMap fun p => p.script.items := by
  cases v with
  | atom a => rfl
  | seq f vs => rfl
  | doc ms =>
    rw [script_doc, Trail.items_concat, Trail.reached, List.takeWhile_map,
      List.flatMap_map]
    · rfl
    · intro t ht
      obtain ⟨p, -, rfl⟩ := List.mem_map.mp ht
      exact Part.items_script_of_fault

/-- **The calls of a translation**: one at most for each part it
reaches. -/
theorem calls_script (v : Value) :
    (script v).calls = v.reached.filterMap Part.call? := by
  rw [Script.calls, items_script, List.filterMap_flatMap,
    List.filterMap_eq_flatMap_toList]
  exact List.flatMap_congr fun p _ => p.calls_script

/-- **The notes of a translation**: those of the sites it reaches. -/
theorem notes_script (v : Value) :
    (script v).notes
      = (v.reached.flatMap Part.sites).filterMap
          fun s => s.outcome.note? := by
  rw [Script.notes, items_script, List.filterMap_flatMap,
    List.filterMap_flatMap]
  exact List.flatMap_congr fun p _ => p.notes_script

/-- A translation without a fault is one of a document, none of whose parts
ends it. -/
theorem exists_doc_of_fault_eq_none {v : Value}
    (h : (script v).fault = none) :
    (∃ ms, v = .doc ms) ∧ ∀ p ∈ v.outline, p.script.fault = none := by
  cases v with
  | atom a => exact absurd h (by simp [script, Value.members, Trail.stop])
  | seq f vs =>
    exact absurd h (by simp [script, Value.members, Trail.stop])
  | doc ms =>
    refine ⟨⟨ms, rfl⟩, fun p hp => ?_⟩
    rw [script_doc, Trail.fault_concat_eq_none_iff] at h
    exact h p.script (List.mem_map_of_mem hp)

/-- A translation without a fault reaches every part. -/
theorem reached_eq_outline {v : Value} (h : (script v).fault = none) :
    v.reached = v.outline := by
  refine List.takeWhile_eq_self_iff.mpr fun p hp => ?_
  rw [Part.passes, (exists_doc_of_fault_eq_none h).2 p hp]
  rfl

/-- **The report on a filter that can be translated** ends in no fault, and
lists the omissions of its sites. -/
theorem omissions_eq {v : Value} (h : (script v).fault = none) :
    v.omissions
      = .ok (v.sites.filterMap fun s => s.outcome.omission?) := by
  obtain ⟨⟨ms, rfl⟩, hparts⟩ := exists_doc_of_fault_eq_none h
  have hreports : ∀ t ∈ (Value.doc ms).outline.map Part.report,
      t.fault = none := by
    intro t ht
    obtain ⟨p, hp, rfl⟩ := List.mem_map.mp ht
    exact (Part.items_report (hparts p hp)).1
  have hreport : Report.ofFilter (.doc ms)
      = Trail.concat ((Value.doc ms).outline.map Part.report) :=
    Report.members_eq "" ms
  rw [Value.omissions, hreport, Trail.toExcept_concat hreports,
    List.flatMap_map, Value.sites, List.filterMap_flatMap]
  refine congrArg Except.ok ?_
  exact List.flatMap_congr fun p hp => (Part.items_report (hparts p hp)).2

end Filter

end DocFilter
