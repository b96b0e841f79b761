import DocFilter.Proofs.Handles
import DocFilter.Proofs.Isolation
import DocFilter.Proofs.Outcomes
import DocFilter.Proofs.Refusals
import DocFilter.Proofs.Translation

/-!
# The order in which a search is bound

Binding a search has six steps, and each of them can end it: the columns are
written, the backend is adapted, has its accessor found and is asked for the
resource, the columns are selected, and the filter is translated. One lemma
says what has happened when a step ends the binding –
`Search.bindTo_of_columns_error`, `Search.bindTo_of_not_found`,
`Search.bindTo_of_denied`, `Search.bindTo_of_refused` – and one what happens
when all but the last go through, `Search.bindTo_of_selected`.

The main statement, `Session.binds_in_order`, is these together, for the
cursor that is opened or not. Two facts about a translation go into it: it
tells nothing on the channel of searches (`Filter.channel_of_mem_notes`), so
the note that a search is bound is the first and the only one of its kind;
and the builder it ends on is as many generations on as it has sent messages
(`Script.entries_of_run_ok`).
-/

namespace DocFilter

/-! ## What a filter tells -/

/-- The note of a site is on the channel of filters or on that of the written
form. -/
theorem Site.channel_of_note? {s : Site} {n : Note}
    (h : s.outcome.note? = some n) :
    n.channel = .filter ∨ n.channel = .disjunction := by
  cases s with
  | plain column v => exact nomatch h
  | orPlain column v => exact nomatch h
  | unreadable f => exact nomatch h
  | reserved path k =>
    obtain rfl := Option.some.inj h
    exact .inl rfl
  | strayConjunct path v =>
    obtain rfl := Option.some.inj h
    exact .inl rfl
  | strayDisjunct path v =>
    obtain rfl := Option.some.inj h
    exact .inr rfl
  | test path column tag operand =>
    have hspec := Outcome.testOutcome_ofTest path column tag operand
    change (Outcome.ofTest path column tag operand).note? = some n at h
    generalize Outcome.ofTest path column tag operand = r at h hspec
    cases hspec with
    | called hc => exact nomatch h
    | stopped f => exact nomatch h
    | _ =>
      obtain rfl := Option.some.inj h
      exact .inl rfl
  | orTest path column tag operand =>
    have hspec := Outcome.orTestOutcome_ofOrTest path column tag operand
    change (Outcome.ofOrTest path column tag operand).note? = some n at h
    generalize Outcome.ofOrTest path column tag operand = r at h hspec
    cases hspec with
    | written hf => exact nomatch h
    | _ =>
      obtain rfl := Option.some.inj h
      exact .inr rfl

/-- **A filter tells nothing on the channel of searches**, whatever ends its
translation. -/
theorem Filter.channel_of_mem_notes {refuses : Refusals} {b : Builder}
    {v : Value} {n : Note} (hn : n ∈ ((script v).run refuses b).notes) :
    n.channel ≠ .search := by
  have hscript := Script.mem_notes_of_mem_run hn
  rw [notes_script, List.mem_filterMap] at hscript
  obtain ⟨s, -, hs⟩ := hscript
  obtain h | h := Site.channel_of_note? hs <;> rw [h] <;> decide

/-- Nor does adapting a backend. -/
theorem Backend.channel_of_mem_adaptNotes {s : Backend} {n : Note}
    (hn : n ∈ s.adaptNotes) : n.channel ≠ .search := by
  cases s with
  | adapted d => exact absurd hn List.not_mem_nil
  | bare h =>
    change n ∈ if h.needsAdapter then _ else _ at hn
    split at hn
    · obtain rfl := List.mem_singleton.mp hn
      exact nofun
    · exact absurd hn List.not_mem_nil

/-! ## The steps of a binding -/

/-- Columns are selected in the same way in either dialect. -/
theorem Dialect.encode_select (d : Dialect) (columns : Value) :
    d.encode (.select columns) = ⟨.select, [columns], []⟩ := by
  cases d <;> rfl

namespace Search

/-- A search asks for what its filter asks for; no filter, and one that counts
as false, ask for nothing. -/
theorem script_ofFilter (criteria : Value) :
    (ofFilter criteria).script
      = if criteria.isTruthy then Filter.script criteria
        else Trail.empty := by
  unfold ofFilter
  split <;> rfl

section Steps

variable {refuses : Refusals} {s : Search} {backend : Backend}
  {resource projection : Value}

/-- **Columns that cannot be written** end a binding before anything is told
or sent. -/
theorem bindTo_of_columns_error {f : Fault}
    (hcolumns : Projection.columns projection = .error f) :
    s.bindTo refuses backend resource projection = Run.fail f := by
  unfold bindTo
  rw [hcolumns]
  rfl

variable {columns : String}
  (hcolumns : Projection.columns projection = .ok columns)

include hcolumns

/-- With its columns written, a search is bound with a note, then the backend
is adapted and asked, then the columns are selected and the filter is
translated. -/
theorem bindTo_of_columns :
    s.bindTo refuses backend resource projection
      = (Run.tell (.binding resource columns)).andThen fun _ =>
          (backend.adapt.andThen fun t => t.openResource resource).andThen
            fun b => (b.call refuses (.select (.text columns))).andThen
              fun b => s.script.run refuses b := by
  unfold bindTo
  simp only [Run.bind_eq, Run.andThen_assoc]
  rw [hcolumns]
  rfl

/-- **A backend that does not answer** ends a binding before anything is
sent. -/
theorem bindTo_of_not_found (hnone : backend.handle.accessor? = none) :
    s.bindTo refuses backend resource projection
      = ⟨[], .binding resource columns :: backend.adaptNotes,
          .error (.noAccessor backend.typeName)⟩ := by
  rw [bindTo_of_columns hcolumns,
    Backend.adapt_openResource_of_none hnone]
  rfl

variable {a : Accessor} (found : backend.handle.accessor? = some a)

include found

/-- **A resource that is denied** ends a binding with the fault of the
handle. -/
theorem bindTo_of_denied {f : Fault}
    (hdenied : backend.handle.denial? a resource = some f) :
    s.bindTo refuses backend resource projection
      = ⟨[], .binding resource columns :: backend.adaptNotes, .error f⟩ := by
  rw [bindTo_of_columns hcolumns,
    Backend.adapt_openResource_of_denied found hdenied]
  rfl

variable (hopen : backend.handle.denial? a resource = none)

include hopen

/-- **Columns that are refused** end a binding once the resource is open. -/
theorem bindTo_of_refused
    (hrefused : refuses ⟨.select, [.text columns], []⟩ = true) :
    s.bindTo refuses backend resource projection
      = ⟨[.opened a resource], .binding resource columns :: backend.adaptNotes,
          .error (.refused "select")⟩ := by
  have hcall : Builder.call refuses ⟨backend.adaptedDialect, 0⟩
      (.select (.text columns)) = Run.fail (.refused "select") := by
    unfold Builder.call
    rw [Dialect.encode_select]
    exact if_pos hrefused
  rw [bindTo_of_columns hcolumns,
    Backend.adapt_openResource_of_some found hopen]
  simp [Run.andThen, Run.tell, Run.fail, hcall]

/-- **Otherwise a binding is the translation of the filter**, on the builder
of generation one that the selection gave: what is sent and told before it is
fixed, and it comes to what the translation comes to. -/
theorem bindTo_of_selected
    (hpass : ¬ refuses ⟨.select, [.text columns], []⟩ = true) :
    s.bindTo refuses backend resource projection
      = ⟨.opened a resource :: .sent 0 ⟨.select, [.text columns], []⟩
            :: (s.script.run refuses ⟨backend.adaptedDialect, 1⟩).entries,
          .binding resource columns :: (backend.adaptNotes
            ++ (s.script.run refuses ⟨backend.adaptedDialect, 1⟩).notes),
          (s.script.run refuses ⟨backend.adaptedDialect, 1⟩).result⟩ := by
  have hcall : Builder.call refuses ⟨backend.adaptedDialect, 0⟩
      (.select (.text columns))
        = ⟨[.sent 0 ⟨.select, [.text columns], []⟩], [],
            .ok ⟨backend.adaptedDialect, 1⟩⟩ := by
    unfold Builder.call
    rw [Dialect.encode_select]
    exact if_neg hpass
  rw [bindTo_of_columns hcolumns,
    Backend.adapt_openResource_of_some found hopen]
  simp [Run.andThen, Run.tell, hcall]

end Steps

end Search

namespace Session

/-- **A search is bound in one order, and fails before it touches the backend
if it can.** In any session and under any refusals:

* Columns that cannot be written are the fault, with nothing told or sent.
* Otherwise the note that the search is bound comes first, and it is the only
  one on its channel. The one other note that is not the filter's is that a
  handle is wrapped.
* If the backend has no accessor that can be called, the fault names its type,
  and nothing is sent.
* Otherwise the backend is asked for the resource, by its source if that can
  be called and else by its table. If it denies the resource, its fault is the
  fault, as it is, and nothing is sent. Else the columns are selected, on
  generation zero; and if this is not refused, what the translation of the
  filter sends from a builder of generation one follows – nothing, if there is
  no filter or it counts as false – and the binding comes to what the
  translation comes to: its fault or refusal, or the builder it ends on, as
  many generations on as it has sent messages.

A cursor is opened exactly if there is a builder, and on this builder;
otherwise no cursor is opened or changed, and the fault is the answer. -/
theorem binds_in_order (refuses : Refusals) (σ : Session) (criteria : Value)
    (backend : Backend) (resource projection : Value) :
    let run := (Search.ofFilter criteria).bindTo refuses backend resource
      projection
    (∀ f, Projection.columns projection = .error f → run = Run.fail f)
      ∧ (∀ columns, Projection.columns projection = .ok columns →
        let bound : Note := .binding resource columns
        let select : Message := ⟨.select, [.text columns], []⟩
        let a : Accessor := if backend.handle.access .source = .callable
          then .source else .table
        let b : Builder := ⟨backend.adaptedDialect, 1⟩
        let filter := if criteria.isTruthy
          then (Filter.script criteria).run refuses b else Run.ok b
        (∃ others, run.notes = bound :: others
            ∧ ∀ n ∈ others, n.channel ≠ bound.channel)
          ∧ ((∀ a, backend.access a ≠ .callable) →
            run = ⟨[], bound :: backend.adaptNotes,
              .error (.noAccessor backend.typeName)⟩)
          ∧ ((∃ a, backend.access a = .callable) →
            run = match backend.handle.denial? a resource with
              | some f => ⟨[], bound :: backend.adaptNotes, .error f⟩
              | none =>
                if refuses select
                then ⟨[.opened a resource], bound :: backend.adaptNotes,
                  .error (.refused "select")⟩
                else ⟨.opened a resource :: .sent 0 select :: filter.entries,
                  bound :: (backend.adaptNotes ++ filter.notes),
                  filter.result⟩)
          ∧ ∀ b', filter.result = .ok b' →
            b' = ⟨b.dialect, 1 + filter.entries.length⟩)
      ∧ step refuses σ (.bind (Search.ofFilter criteria) backend resource
          projection)
        = match run.result with
          | .ok b => (⟨σ.builders ++ [b]⟩, ⟨run.entries, run.notes,
              .ok (.opened σ.builders.length b)⟩)
          | .error f => (σ, ⟨run.entries, run.notes, .error f⟩) := by
  intro run
  refine ⟨fun f hf => Search.bindTo_of_columns_error hf,
    fun columns hcolumns => ?_, ?_⟩
  · intro bound select a b filter
    have hfilter : filter
        = (Search.ofFilter criteria).script.run refuses b := by
      rw [Search.script_ofFilter, apply_ite (Script.run refuses b)]
      rfl
    have htold : ∀ n ∈ filter.notes, n.channel ≠ bound.channel := by
      intro n hn
      unfold filter at hn
      split at hn
      · exact Filter.channel_of_mem_notes hn
      · exact absurd hn List.not_mem_nil
    have hadapt : ∀ n ∈ backend.adaptNotes, n.channel ≠ bound.channel :=
      fun n => Backend.channel_of_mem_adaptNotes
    have hend : ∀ b', filter.result = .ok b' →
        b' = ⟨b.dialect, 1 + filter.entries.length⟩ := by
      rw [hfilter]
      exact fun b' hb' => (Script.entries_of_run_ok hb').2
    cases hfound : backend.handle.accessor? with
    | none =>
      have hclosed := Backend.accessor?_handle_eq_none_iff.mp hfound
      have hrun : run = _ := Search.bindTo_of_not_found hcolumns hfound
      exact ⟨⟨_, congrArg Run.notes hrun, hadapt⟩, fun _ => hrun,
        fun ⟨a, ha⟩ => absurd ha (hclosed a), hend⟩
    | some a' =>
      obtain rfl : a' = a := (Handle.accessor?_eq_some hfound).1
      have hopen : ¬ ∀ a, backend.access a ≠ .callable := fun hclosed =>
        Option.some_ne_none a (hfound.symm.trans
          (Backend.accessor?_handle_eq_none_iff.mpr hclosed))
      cases hdenial : backend.handle.denial? a resource with
      | some f =>
        have hrun : run = _ :=
          Search.bindTo_of_denied hcolumns hfound hdenial
        exact ⟨⟨_, congrArg Run.notes hrun, hadapt⟩,
          fun hclosed => absurd hclosed hopen, fun _ => hrun, hend⟩
      | none =>
        by_cases hrefused : refuses select = true
        · have hrun : run = _ :=
            Search.bindTo_of_refused hcolumns hfound hdenial hrefused
          exact ⟨⟨_, congrArg Run.notes hrun, hadapt⟩,
            fun hclosed => absurd hclosed hopen,
            fun _ => hrun.trans (if_pos hrefused).symm, hend⟩
        · have hrun : run = _ :=
            Search.bindTo_of_selected hcolumns hfound hdenial hrefused
          rw [← hfilter] at hrun
          exact ⟨⟨_, congrArg Run.notes hrun,
              fun n hn => (List.mem_append.mp hn).elim (hadapt n) (htold n)⟩,
            fun hclosed => absurd hclosed hopen,
            fun _ => hrun.trans (if_neg hrefused).symm, hend⟩
  · cases hr : run.result with
    | ok b => exact step_bind_of_ok hr
    | error f => exact step_bind_of_error hr

/-- A search over a client that only has a table: the note that it is bound,
then that the client is wrapped, then what the filter leaves out; the resource,
the columns on generation zero, and the filter from generation one on. The
cursor that is opened has its builder of generation three. -/
theorem binds_in_order_over_client :
    let backend : Backend := .bare (Backend.tableHandle "supabase.client")
    let criteria : Value :=
      .doc [(.text "a", .doc [(.text "$ne", .null)]),
        (.text "$nor", .list []), (.text "b", .int 2)]
    let projection : Value := .list [.text "id", .text "title"]
    let refuses := Refusals.ofList [⟨"eq", .text "a"⟩]
    let run := (Search.ofFilter criteria).bindTo refuses backend
      (.text "tasks") projection
    Projection.columns projection = .ok "id,title"
      ∧ backend.access .table = .callable
      ∧ run
        = ⟨[.opened .table (.text "tasks"),
            .sent 0 ⟨.select, [.text "id,title"], []⟩,
            .sent 1 ⟨.filter, [.text "a", .text "not.is", .text "null"], []⟩,
            .sent 2 ⟨.compare .eq, [.text "b", .int 2], []⟩],
          [.binding (.text "tasks") "id,title", .wrapping "Client",
            .skippedKey (.text "$nor")],
          .ok ⟨.adapted, 3⟩⟩
      ∧ (step refuses start (.bind (Search.ofFilter criteria) backend
          (.text "tasks") projection)).1 = ⟨[⟨.adapted, 3⟩]⟩ := by
  intro backend criteria projection refuses run
  obtain ⟨-, hcolumns, hstep⟩ := binds_in_order refuses start criteria backend
    (.text "tasks") projection
  obtain ⟨-, -, hfound, -⟩ := hcolumns "id,title" rfl
  exact ⟨rfl, rfl, (hfound ⟨.table, rfl⟩).trans rfl,
    (congrArg Prod.fst hstep).trans rfl⟩

end Session

end DocFilter
