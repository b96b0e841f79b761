import DocFilter.Proofs.Handles
import DocFilter.Proofs.Respelling
import DocFilter.Session

/-!
# A session over an adapter is the session over its handle

Take any handle that gives a builder and is no client of PostgREST, so that
it is used as it is. Put it into an adapter by hand, and do the same things
over both: bind searches, order, page and limit their rows, read their
builders. Then the two sessions go step by step alike
(`Session.adapter_simulates`). The same resources are opened, every message
reaches a request of the same generation, in the spelling of
`Message.Respelled`; the same steps end in the same faults, also midway; and
in the end each cursor of the one has a builder around the same request as
in the other.

The invariant is that the builders of the cursors correspond. One action
preserves it (`Session.step_simulates`), because what a search and a cursor
ask for are calls that respell well.
-/

namespace DocFilter

/-! ## What a cursor asks for -/

/-- The calls of a sort order are one order for each member. -/
theorem SortOrder.calls_concat (ms : List (Key × Value)) :
    Script.calls (Trail.concat (ms.map fun (k, direction) =>
        Script.send (.order k.toValue (.bool (ascends direction)))))
      = ms.map fun m => Call.order m.1.toValue (.bool (ascends m.2)) := by
  rw [← Script.calls_sendAll (ms.map _), ← Script.concat_map_send,
    List.map_map]
  rfl

/-- The calls of a sort order respell well. -/
theorem SortOrder.respells_of_mem_calls {v : Value} {c : Call}
    (hc : c ∈ (script v).calls) : c.Respells := by
  unfold script at hc
  split at hc
  · rw [calls_concat] at hc
    obtain ⟨m, -, rfl⟩ := List.mem_map.mp hc
    exact .order m.1.toValue (ascends m.2)
  · exact absurd hc List.not_mem_nil

/-- **The calls of a cursor respell well.** -/
theorem CursorOp.respells_of_mem_calls {op : CursorOp} {c : Call}
    (hc : c ∈ op.script.calls) : c.Respells := by
  cases op with
  | sort order => exact SortOrder.respells_of_mem_calls hc
  | page offset =>
    dsimp only [script] at hc
    split at hc
    · obtain rfl := List.mem_singleton.mp hc
      exact .forwarded _ rfl
    · exact absurd hc List.not_mem_nil
  | limit count =>
    obtain rfl := List.mem_singleton.mp hc
    exact .forwarded _ rfl
  | range first last =>
    obtain rfl := List.mem_singleton.mp hc
    exact .forwarded _ rfl

/-! ## What a search asks for -/

/-- The calls of a search respell well. -/
theorem Search.respells_of_mem_calls {s : Search} {c : Call}
    (hc : c ∈ s.script.calls) : c.Respells := by
  unfold script at hc
  split at hc
  · exact Filter.respells_of_mem_calls hc
  · exact absurd hc List.not_mem_nil

section Adapter

variable {h : Handle} {a : Accessor} (found : h.accessor? = some a)

/-- **A handle and an adapter around it open the same resource**, by the
same accessor, or deny it alike. -/
theorem Backend.openResource_respelled (resource : Value) :
    (openResource (.bare h) resource).Respelled Builder.Wrapped
      (openResource (.adapted ⟨h, a, found⟩) resource) := by
  have hbare : accessor (.bare h) = .ok a := by
    simp only [accessor, found]
  unfold openResource
  rw [hbare]
  show (openBy (.bare h) a resource).Respelled Builder.Wrapped
    (openBy (.adapted ⟨h, a, found⟩) a resource)
  unfold openBy handle
  cases h.denial? a resource with
  | some f => exact ⟨.nil, rfl, .error f⟩
  | none => exact ⟨.cons (.opened a resource) .nil, rfl, .ok ⟨rfl, rfl, rfl⟩⟩

/-- **A search is bound over an adapter as over its handle.** -/
theorem Search.bindTo_respelled (hclient : h.isClient = false)
    (hvendor : h.isVendored = false) (s : Search)
    (resource projection : Value) :
    (s.bindTo Refusals.none (.bare h) resource projection).Respelled
      Builder.Wrapped
      (s.bindTo Refusals.none (.adapted ⟨h, a, found⟩) resource
        projection) := by
  unfold bindTo
  simp only [Run.bind_eq]
  refine .andThen (.ofExcept _) fun columns _ hcolumns => ?_
  subst hcolumns
  refine .andThen (.tell _) fun _ _ _ => ?_
  have hneeds : h.needsAdapter = false := by
    rw [Handle.needsAdapter, hclient, hvendor]
    rfl
  rw [Backend.adapt_bare_of_not_needsAdapter hneeds, Backend.adapt_adapted,
    Run.ok_andThen, Run.ok_andThen]
  refine .andThen (Backend.openResource_respelled found resource) ?_
  intro b w hbw
  refine .andThen (hbw.call (.forwarded _ rfl)) ?_
  intro b w hbw
  exact Script.run_respelled hbw fun c hc => respells_of_mem_calls hc

end Adapter

namespace Session

/-- **The same action over another backend.** Only binding a search asks
for one. -/
def Action.over (backend : Backend) : Action → Action
  | .bind search _ resource projection =>
    .bind search backend resource projection
  | .operate cursor op => .operate cursor op
  | .read cursor => .read cursor

/-- **Answers that correspond**: on the same cursor, with builders around
the same request. -/
inductive Answer.Wrapped : Answer → Answer → Prop where
  | opened (cursor : Nat) {b w : Builder} (h : b.Wrapped w) :
    Wrapped (.opened cursor b) (.opened cursor w)
  | current {b w : Builder} (h : b.Wrapped w) :
    Wrapped (.current b) (.current w)
  | noCursor : Wrapped .noCursor .noCursor

/-- **The invariant**: the builders of two sessions correspond, cursor by
cursor. -/
def Wrapped (s t : Session) : Prop :=
  List.Forall₂ Builder.Wrapped s.builders t.builders

variable {s t : Session}

/-- Two sessions that correspond have the same cursors. -/
theorem Wrapped.builder? (hst : s.Wrapped t) (cursor : Nat) :
    Option.Rel Builder.Wrapped (s.builder? cursor) (t.builder? cursor) := by
  obtain ⟨bs⟩ := s
  obtain ⟨ws⟩ := t
  change List.Forall₂ Builder.Wrapped bs ws at hst
  show Option.Rel Builder.Wrapped bs[cursor]? ws[cursor]?
  induction hst generalizing cursor with
  | nil => exact .none
  | cons hbw _ ih =>
    cases cursor with
    | zero => exact .some hbw
    | succ n => exact ih n

theorem Wrapped.append (hst : s.Wrapped t) {b w : Builder}
    (hbw : b.Wrapped w) :
    Wrapped ⟨s.builders ++ [b]⟩ ⟨t.builders ++ [w]⟩ :=
  List.rel_append hst (.cons hbw .nil)

theorem Wrapped.set (hst : s.Wrapped t) (cursor : Nat) {b w : Builder}
    (hbw : b.Wrapped w) :
    Wrapped ⟨s.builders.set cursor b⟩ ⟨t.builders.set cursor w⟩ := by
  obtain ⟨bs⟩ := s
  obtain ⟨ws⟩ := t
  change List.Forall₂ Builder.Wrapped bs ws at hst
  show List.Forall₂ Builder.Wrapped (bs.set cursor b) (ws.set cursor w)
  induction hst generalizing cursor with
  | nil => exact .nil
  | cons hcv htail ih =>
    cases cursor with
    | zero => exact .cons hbw htail
    | succ n => exact .cons hcv (ih n)

/-- Sessions that go on alike after ends that are alike. -/
theorem Wrapped.ofEnd (hst : s.Wrapped t) {f g : Builder → Session}
    (hfg : ∀ b w, b.Wrapped w → (f b).Wrapped (g w))
    {x y : Except Fault Builder} :
    SameEnd Builder.Wrapped x y →
      Wrapped (match x with | .ok b => f b | .error _ => s)
        (match y with | .ok w => g w | .error _ => t) := by
  intro hxy
  cases hxy with
  | ok hbw => exact hfg _ _ hbw
  | error e => exact hst

variable {h : Handle} {a : Accessor} (found : h.accessor? = some a)

/-- **One action preserves the invariant**, and what happens on the one side
is a respelling of what happens on the other. -/
theorem step_simulates (hclient : h.isClient = false)
    (hvendor : h.isVendored = false) (hst : s.Wrapped t) (action : Action) :
    (step Refusals.none s (action.over (.bare h))).1.Wrapped
        (step Refusals.none t (action.over (.adapted ⟨h, a, found⟩))).1
      ∧ (step Refusals.none s (action.over (.bare h))).2.Respelled
        Answer.Wrapped
        (step Refusals.none t
          (action.over (.adapted ⟨h, a, found⟩))).2 := by
  cases action with
  | bind search _ resource projection =>
    have hrun := search.bindTo_respelled found hclient hvendor resource
      projection
    refine ⟨hst.ofEnd (fun b w hbw => hst.append hbw) hrun.result, ?_⟩
    refine hrun.andThen fun b w hbw => .ok ?_
    rw [← hst.length_eq]
    exact .opened s.builders.length hbw
  | operate cursor op =>
    -- Either both sessions have the cursor or neither has.
    have hcursor := hst.builder? cursor
    unfold Action.over step
    dsimp only
    generalize s.builder? cursor = b? at hcursor
    generalize t.builder? cursor = w? at hcursor
    cases hcursor with
    | none => exact ⟨hst, .ok .noCursor⟩
    | some hbw =>
      have hrun := Script.run_respelled hbw fun c hc =>
        op.respells_of_mem_calls hc
      refine ⟨hst.ofEnd (fun b w hbw => hst.set cursor hbw) hrun.result, ?_⟩
      exact hrun.andThen fun b w hbw => .ok (.current hbw)
  | read cursor =>
    have hcursor := hst.builder? cursor
    unfold Action.over step
    dsimp only
    generalize s.builder? cursor = b? at hcursor
    generalize t.builder? cursor = w? at hcursor
    cases hcursor with
    | none => exact ⟨hst, .ok .noCursor⟩
    | some hbw => exact ⟨hst, .ok (.current hbw)⟩

/-- **Actions one after another preserve the invariant**, and what happens
at each is respelled. -/
theorem steps_simulate (hclient : h.isClient = false)
    (hvendor : h.isVendored = false) (hst : s.Wrapped t)
    (actions : List Action) :
    (steps Refusals.none s
          (actions.map (Action.over (.bare h)))).1.Wrapped
        (steps Refusals.none t
          (actions.map (Action.over (.adapted ⟨h, a, found⟩)))).1
      ∧ List.Forall₂ (Run.Respelled Answer.Wrapped)
        (steps Refusals.none s (actions.map (Action.over (.bare h)))).2
        (steps Refusals.none t
          (actions.map (Action.over (.adapted ⟨h, a, found⟩)))).2 := by
  induction actions generalizing s t with
  | nil => exact ⟨hst, .nil⟩
  | cons action actions ih =>
    obtain ⟨hnext, hhere⟩ :=
      step_simulates found hclient hvendor hst action
    obtain ⟨hlast, hthere⟩ := ih hnext
    exact ⟨hlast, .cons hhere hthere⟩

/-- **A session over an adapter simulates the session over its handle.** For
every handle that gives a builder and is no client, an adapter can be put
around it; and whatever is done in a session over the handle, on requests
that refuse nothing, does the same over the adapter. At each step the same
entries arrive in their respelling, the same notes are left and the same
fault or a corresponding answer comes out; and in the end each cursor has an
adapter around the same request. -/
theorem adapter_simulates (h : Handle)
    (hopen : h.access .source = .callable ∨ h.access .table = .callable)
    (hclient : h.isClient = false) (hvendor : h.isVendored = false)
    (actions : List Action) :
    ∃ store, Backend.wrap h = .ok store
      ∧ List.Forall₂ (Run.Respelled Answer.Wrapped)
        (steps Refusals.none start
          (actions.map (Action.over (.bare h)))).2
        (steps Refusals.none start (actions.map (Action.over store))).2
      ∧ List.Forall₂ Builder.Wrapped
        (steps Refusals.none start
          (actions.map (Action.over (.bare h)))).1.builders
        (steps Refusals.none start
          (actions.map (Action.over store))).1.builders := by
  obtain ⟨a, found⟩ := Handle.exists_accessor hopen
  have hstart : start.Wrapped start := .nil
  obtain ⟨hlast, hsteps⟩ :=
    steps_simulate found hclient hvendor hstart actions
  exact ⟨_, Backend.wrap_of_accessor? found, hsteps, hlast⟩

/-- A handle with a table, by no package of a client. -/
def plainHandle : Handle where
  typeName := "Handle"
  fullName := "Handle"
  home := "app.stores"
  access := fun
    | .source => .missing
    | .table => .callable
  isClient := false

/-- A search for something and for none of a list, then an order: what
arrives over the adapter is respelled. -/
theorem adapter_simulates_negations :
    let actions : List Action :=
      [.bind ⟨.doc
          [(.text "a", .doc [(.text "$ne", .null)]),
           (.text "b", .doc [(.text "$nin", .list [.text "x", .int 2])])]⟩
        (.bare plainHandle) (.text "t") .null,
       .operate 0 (.sort (.doc [(.text "c", .int 1)])),
       .operate 0 (.page .null)]
    ∃ store, Backend.wrap plainHandle = .ok store
      ∧ List.Forall₂ (Run.Respelled Answer.Wrapped)
        (steps Refusals.none start
          (actions.map (Action.over (.bare plainHandle)))).2
        (steps Refusals.none start (actions.map (Action.over store))).2
      ∧ (steps Refusals.none start
          (actions.map (Action.over store))).2.map Run.entries
        = [[.opened .table (.text "t"),
            .sent 0 ⟨.select, [.text "*"], []⟩,
            .sent 1 ⟨.filter, [.text "a", .text "not.is", .text "null"],
              []⟩,
            .sent 2 ⟨.filter,
              [.text "b", .text "not.in", .text "(\"x\",2)"], []⟩],
           [.sent 3 ⟨.order, [.text "c"], [("desc", .bool false)]⟩],
           []] := by
  intro actions
  obtain ⟨store, hstore, hsteps, -⟩ :=
    adapter_simulates plainHandle (Or.inr rfl) rfl rfl actions
  obtain rfl : Backend.adapted ⟨plainHandle, .table, rfl⟩ = store := by
    rw [Backend.wrap_of_accessor? rfl] at hstore
    exact Except.ok.inj hstore
  exact ⟨_, hstore, hsteps, by decide⟩

end Session

end DocFilter
