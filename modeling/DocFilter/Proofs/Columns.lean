import DocFilter.Proofs.Accounting

/-!
# Where a reserved key becomes a column

A key with the operator mark joins documents or is skipped; it names no
column. For the calls of a translation this holds without exception: a call
that is about a column is about one without the mark
(`Filter.hasMark_column_of_mem_calls`).

It fails for the fragments of an `$or`. Inside its clauses no key is looked
at for the mark, so a marked key is written like any other, as soon as
something is written for it at all – which is for every plain value, and
for an operator document with at least one test that has a written form.
`Filter.reserved_columns` says that this is the only way in, at any depth.
-/

namespace DocFilter

/-- What a call hands over to be read as an `$or`. -/
def Call.disjunction? : Call → Option Value
  | .or filters => some filters
  | _ => none

/-- The clauses of a part that is an `$or`. -/
def Part.clauses? : Part → Option (List Value)
  | alone _ => none
  | joined _ cs => some cs

/-- **The `$or`s that a translation reaches**, each by its clauses, in
document order. -/
def Value.disjunctions (v : Value) : List (List Value) :=
  v.reached.filterMap Part.clauses?

/-- **Whether anything is written for a field** of a clause of an `$or`. A
plain value is always written, an operator document if one of its tests
is. -/
def Value.isWritten (v : Value) : Bool :=
  match v.condition with
  | .plain _ => true
  | .operators ts => ts.any fun (tag, operand) =>
    (Report.fragmentReason? tag operand).isNone

/-- A clause of an `$or` has a reserved key that something is written
for. -/
def Value.WritesReserved (c : Value) : Prop :=
  ∃ ms, c = .doc ms ∧ ∃ m ∈ ms, m.1.hasMark = .ok true ∧ m.2.isWritten

/-! ## The columns of calls -/

/-- A call about a column is not an `$or`. -/
theorem Call.disjunction?_of_column? {c : Call} {column : Value}
    (h : c.column? = some column) : c.disjunction? = none := by
  cases c with
  | or filters => exact absurd h (Option.some_ne_none column).symm
  | _ => rfl

namespace Site

/-- The call of a site is not an `$or`. -/
theorem disjunction?_call? (s : Site) :
    s.outcome.call?.bind Call.disjunction? = none := by
  cases h : s.outcome with
  | called c =>
    obtain ⟨column, -, hc⟩ := fieldCall_of_outcome h
    exact Call.disjunction?_of_column? hc.column?
  | _ => rfl

/-- **A site that becomes a call is on a column without the mark.** The
mark has been looked for in the key before. -/
theorem hasMark_of_mem_ofOther {path : String} {k : Key} {v column : Value}
    {s : Site} {c : Call} (hs : s ∈ ofOther path k v)
    (hc : s.outcome = .called c) (hcol : c.column? = some column) :
    column.hasMark = .ok false := by
  unfold ofOther at hs
  split at hs
  · obtain rfl := List.mem_singleton.mp hs
    exact nomatch hc
  · next hmark =>
    obtain ⟨column', hsite, hfield⟩ := fieldCall_of_outcome hc
    obtain rfl := Option.some.inj (hcol.symm.trans hfield.column?)
    obtain ⟨w, rfl⟩ | ⟨tag, operand, rfl⟩ := mem_ofCondition hs
    · exact Option.some.inj hsite ▸ hmark
    · exact Option.some.inj hsite ▸ hmark
  · obtain rfl := List.mem_singleton.mp hs
    exact nomatch hc

end Site

namespace Filter

/-- **A call is never about a reserved key.** -/
theorem hasMark_column_of_mem_calls {v column : Value} {c : Call}
    (hc : c ∈ (script v).calls) (hcol : c.column? = some column) :
    column.hasMark = .ok false := by
  rw [calls_script] at hc
  obtain ⟨p, hp, hpc⟩ := List.mem_filterMap.mp hc
  -- Every kind of part: only a site outside of an `$or` has such a call.
  have hparts : Outline.HoldsOfKinds fun p =>
      p.call? = some c → column.hasMark = .ok false :=
    { other := fun _ _ _ _ hs hsc =>
        Site.hasMark_of_mem_ofOther hs (Outcome.eq_called_of_call? hsc) hcol
      stray := fun _ _ hsc => nomatch hsc
      joined := fun _ _ hsc => by
        rw [← Option.some.inj hsc] at hcol
        exact nomatch hcol }
  exact Outline.forall_outline hparts v p
    ((List.takeWhile_subset Part.passes) hp) hpc

/-- **What a translation hands over as `$or`s** are the fragments of those
it reaches, one text for each, in order. -/
theorem disjunctions_calls (v : Value) :
    (script v).calls.filterMap Call.disjunction?
      = v.disjunctions.map fun cs =>
          .text (",".intercalate
            ((Disjunction.fragments cs).map Fragment.text)) := by
  rw [calls_script, Value.disjunctions, List.filterMap_filterMap,
    List.map_filterMap]
  refine congrArg (List.filterMap · v.reached) (funext fun p => ?_)
  cases p with
  | alone s => exact s.disjunction?_call?
  | joined path cs =>
    rw [Part.call?_joined, Disjunction.text_eq_intercalate]
    rfl

end Filter

/-! ## The columns of fragments -/

namespace Disjunction

/-- A fragment of a test is on the column of the test. -/
theorem column_of_write {column operand : Value} {tag : Key} {f : Fragment}
    (h : write column tag operand = .ok f) : f.column = column := by
  unfold write at h
  split at h
  · split at h
    · cases h
      rfl
    · cases h
  · split at h
    · cases h
      rfl
    · cases h
  · cases h

/-- A test has a fragment if the report does not list it. -/
theorem exists_write_iff (column operand : Value) (tag : Key) :
    (∃ f, write column tag operand = .ok f)
      ↔ Report.fragmentReason? tag operand = none := by
  unfold write Report.fragmentReason?
  cases tag.operator? with
  | none => simp
  | some op =>
    cases op with
    | inList => cases operand <;> simp [Report.testsWithFragment, Value.isSeq]
    | _ => simp [name?, Report.testsWithFragment]

/-- The fragments among some outcomes. -/
theorem mem_fragmentsOf {os : List (Except Note Fragment)} {f : Fragment} :
    f ∈ fragmentsOf os ↔ .ok f ∈ os := by
  unfold fragmentsOf
  rw [List.mem_filterMap]
  constructor
  · rintro ⟨o, ho, hf⟩
    cases o with
    | ok g => exact Option.some.inj hf ▸ ho
    | error n => exact nomatch hf
  · exact fun h => ⟨_, h, rfl⟩

/-- The fragments of a field are on its column. -/
theorem column_of_mem_fieldOutcomes {column v : Value} {f : Fragment}
    (h : .ok f ∈ fieldOutcomes column v) : f.column = column := by
  unfold fieldOutcomes at h
  split at h
  · injection List.mem_singleton.mp h with h
    rw [h, column_plain]
  · obtain ⟨t, -, ht⟩ := List.mem_map.mp h
    exact column_of_write ht

/-- A field has a fragment if something is written for it. -/
theorem exists_mem_fieldOutcomes_iff (column v : Value) :
    (∃ f, .ok f ∈ fieldOutcomes column v) ↔ v.isWritten = true := by
  unfold fieldOutcomes Value.isWritten
  cases v.condition with
  | plain w => exact ⟨fun _ => rfl, fun _ => ⟨_, List.mem_singleton_self _⟩⟩
  | operators ts =>
    dsimp only
    rw [List.any_eq_true]
    constructor
    · rintro ⟨f, hf⟩
      obtain ⟨t, ht, hw⟩ := List.mem_map.mp hf
      exact ⟨t, ht, Option.isNone_iff_eq_none.mpr
        ((exists_write_iff column t.2 t.1).mp ⟨f, hw⟩)⟩
    · rintro ⟨t, ht, hnone⟩
      obtain ⟨f, hf⟩ := (exists_write_iff column t.2 t.1).mpr
        (Option.isNone_iff_eq_none.mp hnone)
      exact ⟨f, List.mem_map.mpr ⟨t, ht, hf⟩⟩

/-- **An `$or` writes a reserved key as a column** if one of its clauses
has such a key that something is written for. -/
theorem exists_marked_fragment_iff (cs : List Value) :
    (∃ f ∈ fragments cs, f.column.hasMark = .ok true)
      ↔ ∃ c ∈ cs, c.WritesReserved := by
  constructor
  · rintro ⟨f, hf, hmark⟩
    obtain ⟨c, hc, hfc⟩ := List.mem_flatMap.mp (mem_fragmentsOf.mp hf)
    cases c with
    | doc ms =>
      obtain ⟨m, hm, hfm⟩ := List.mem_flatMap.mp hfc
      have hcol : f.column = m.1.toValue := column_of_mem_fieldOutcomes hfm
      rw [hcol] at hmark
      exact ⟨.doc ms, hc, ms, rfl, m, hm, hmark,
        (exists_mem_fieldOutcomes_iff m.1.toValue m.2).mp ⟨f, hfm⟩⟩
    | atom a => exact nomatch List.mem_singleton.mp hfc
    | seq form vs => exact nomatch List.mem_singleton.mp hfc
  · rintro ⟨c, hc, ms, rfl, m, hm, hmark, hwritten⟩
    obtain ⟨f, hf⟩ :=
      (exists_mem_fieldOutcomes_iff m.1.toValue m.2).mpr hwritten
    have hcol : f.column = m.1.toValue := column_of_mem_fieldOutcomes hf
    refine ⟨f, mem_fragmentsOf.mpr ?_, ?_⟩
    · exact List.mem_flatMap.mpr
        ⟨.doc ms, hc, List.mem_flatMap.mpr ⟨m, hm, hf⟩⟩
    · rw [hcol]
      exact hmark

end Disjunction

namespace Filter

/-- **A reserved key becomes a column in one way only.**

* Whatever a translation sends is the message of one of its calls, and a
  call that is about a column is about one without the mark.
* A builder that refuses nothing receives all of these calls; the `$or`s
  among them carry the fragments of the `$or`s of the filter.
* Among these fragments is one on a reserved key exactly if some clause of
  some `$or` that is reached has such a key, with something written for
  it. -/
theorem reserved_columns (v : Value) (b : Builder) :
    (∀ refuses, ∀ e ∈ ((script v).run refuses b).entries,
        ∃ c ∈ (script v).calls, ∃ g, e = .sent g (b.dialect.encode c)
          ∧ ∀ column, c.column? = some column → column.hasMark = .ok false)
      ∧ ((script v).run Refusals.none b).entries
        = b.deliveries (script v).calls
      ∧ (script v).calls.filterMap Call.disjunction?
        = v.disjunctions.map (fun cs => .text (",".intercalate
            ((Disjunction.fragments cs).map Fragment.text)))
      ∧ ((∃ cs ∈ v.disjunctions, ∃ f ∈ Disjunction.fragments cs,
            f.column.hasMark = .ok true)
          ↔ ∃ cs ∈ v.disjunctions, ∃ c ∈ cs, c.WritesReserved) := by
  refine ⟨fun refuses e he => ?_, ?_, disjunctions_calls v, ?_⟩
  · obtain ⟨c, hc, g, rfl⟩ := Script.exists_call_of_mem_entries he
    exact ⟨c, hc, g, rfl, fun _ hcol => hasMark_column_of_mem_calls hc hcol⟩
  · rw [Script.run_none]
  · exact exists_congr fun cs =>
      and_congr_right fun _ => Disjunction.exists_marked_fragment_iff cs

/-- A `$not` in a clause of an `$or` is sent as a column. -/
theorem reserved_column_sent :
    let v : Value := .doc [(.text "$or", .list
      [.doc [(.text "$not", .int 1), (.text "a", .int 2)]])]
    ((script v).run Refusals.none ⟨.plain, 0⟩).entries
        = [.sent 0 ⟨.or, [.text "$not.eq.1,a.eq.2"], []⟩]
      ∧ ∃ cs ∈ v.disjunctions, ∃ f ∈ Disjunction.fragments cs,
          f.column.hasMark = .ok true := by
  intro v
  refine ⟨by decide, _, List.mem_singleton_self _, ?_⟩
  exact ⟨_, List.mem_cons_self .., rfl⟩

end Filter

end DocFilter
