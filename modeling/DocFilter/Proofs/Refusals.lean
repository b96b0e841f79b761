import DocFilter.Proofs.Delivery

/-!
# Where a refusal ends a run

A run keeps what arrives apart from what is told, so it does not say which
notes were left before a message and which after. The **events** of a script
are both in one list, as they happen on a builder that refuses nothing
(`Script.events`); the run on such a builder is made up of them
(`Script.run_none_eq_ofEvents`).

Under any refusals the run is the part of this list before the first message
that is refused (`Script.run_eq_upToRefusal`). Nothing is sent or told after
it, nothing else is changed before it, and the fault is the refusal itself;
without a refused message the run is the one without refusals.

So a run that gives a builder has met no refusal (`Script.run_eq_run_none`),
and what arrives is always a beginning of what the calls deliver
(`Script.exists_deliveries`): one message for each generation from that of
the builder on, also when a fault or a refusal ends the run.

All of this holds of every script. What it says of filters, conditions of
fields and sort orders is in `DocFilter.Proofs.Applications`.
-/

namespace DocFilter

/-! ## Events -/

/-- **One thing that happens in a run.** -/
inductive Event where
  /-- A request of a generation receives a message. -/
  | arrived (generation : Nat) (message : Message)
  /-- A note is left. -/
  | told (note : Note)
  deriving DecidableEq

namespace Event

/-- The entry of an event. -/
def entry? : Event → Option Entry
  | arrived g m => some (.sent g m)
  | told _ => none

/-- The note of an event. -/
def note? : Event → Option Note
  | arrived .. => none
  | told n => some n

/-- The fault of an event whose message is refused. -/
def refusal? (refuses : Refusals) : Event → Option Fault
  | arrived _ m => if refuses m then some (.refused m.method.name) else none
  | told _ => none

/-- Whether an event takes place under refusals. -/
def passes (refuses : Refusals) (e : Event) : Bool :=
  (e.refusal? refuses).isNone

end Event

/-- **The run that events make up**, with what comes of it. -/
def Run.ofEvents {α : Type} (events : List Event)
    (result : Except Fault α) : Run α :=
  ⟨events.filterMap Event.entry?, events.filterMap Event.note?, result⟩

namespace Script

/-- The events of steps on a builder that refuses nothing. -/
def stepEvents (b : Builder) : List Step → List Event
  | [] => []
  | .send c :: steps =>
    .arrived b.generation (b.dialect.encode c) :: stepEvents b.next steps
  | .tell n :: steps => .told n :: stepEvents b steps

/-- **The events of a script**, in the order they happen on a builder that
refuses nothing. -/
def events (s : Script) (b : Builder) : List Event := stepEvents b s.items

/-- What arrives among the events are the calls, one after another. -/
theorem entries_stepEvents (b : Builder) (steps : List Step)
    (f : Option Fault) :
    (stepEvents b steps).filterMap Event.entry?
      = b.deliveries (calls ⟨steps, f⟩) := by
  induction steps generalizing b with
  | nil => rfl
  | cons step steps ih =>
    cases step with
    | send c => exact congrArg (Entry.sent _ _ :: ·) (ih b.next)
    | tell n => exact ih b

/-- What is told among the events are the notes. -/
theorem notes_stepEvents (b : Builder) (steps : List Step)
    (f : Option Fault) :
    (stepEvents b steps).filterMap Event.note? = notes ⟨steps, f⟩ := by
  induction steps generalizing b with
  | nil => rfl
  | cons step steps ih =>
    cases step with
    | send c => exact ih b.next
    | tell n => exact congrArg (n :: ·) (ih b)

/-- **The run without refusals is made up of the events.** -/
theorem run_none_eq_ofEvents (s : Script) (b : Builder) :
    s.run Refusals.none b
      = Run.ofEvents (s.events b) (s.run Refusals.none b).result := by
  obtain ⟨steps, f⟩ := s
  rw [run_none, Run.ofEvents, events, entries_stepEvents b steps f,
    notes_stepEvents b steps f]

/-! ## Up to the first refusal -/

/-- **A run cut off at the first refusal** among its events, or the whole
run if there is none. -/
def upToRefusal (refuses : Refusals) (events : List Event)
    (whole : Run Builder) : Run Builder :=
  match events.findSome? (Event.refusal? refuses) with
  | none => whole
  | some f =>
    Run.ofEvents (events.takeWhile (Event.passes refuses)) (.error f)

/-- A note takes place under any refusals. -/
theorem upToRefusal_told (refuses : Refusals) (n : Note)
    (events : List Event) (whole : Run Builder) :
    upToRefusal refuses (.told n :: events)
        ((Run.tell n).andThen fun _ => whole)
      = (Run.tell n).andThen fun _ => upToRefusal refuses events whole := by
  unfold upToRefusal
  rw [List.findSome?_cons, Event.refusal?]
  cases events.findSome? (Event.refusal? refuses) <;> rfl

/-- A message that is not refused arrives. -/
theorem upToRefusal_arrived {refuses : Refusals} {b : Builder} {c : Call}
    (hpass : ¬ refuses (b.dialect.encode c) = true) (events : List Event)
    (whole : Run Builder) :
    upToRefusal refuses
        (.arrived b.generation (b.dialect.encode c) :: events)
        ((b.call Refusals.none c).andThen fun _ => whole)
      = (b.call refuses c).andThen
          fun _ => upToRefusal refuses events whole := by
  have hnone : Event.refusal? refuses
      (.arrived b.generation (b.dialect.encode c)) = none := if_neg hpass
  unfold upToRefusal
  rw [List.findSome?_cons, hnone, Builder.call_of_not_refused hpass,
    List.takeWhile_cons_of_pos (by rw [Event.passes, hnone]; rfl)]
  cases events.findSome? (Event.refusal? refuses) <;> rfl

/-- A message that is refused ends the run. -/
theorem upToRefusal_refused {refuses : Refusals} {b : Builder} {c : Call}
    (hrefused : refuses (b.dialect.encode c) = true) (events : List Event)
    (whole : Run Builder) :
    upToRefusal refuses
        (.arrived b.generation (b.dialect.encode c) :: events) whole
      = b.call refuses c := by
  have hsome : Event.refusal? refuses
      (.arrived b.generation (b.dialect.encode c))
        = some (.refused (b.dialect.encode c).method.name) :=
    if_pos hrefused
  unfold upToRefusal
  rw [List.findSome?_cons, hsome, Builder.call_of_refused hrefused,
    List.takeWhile_cons_of_neg (by rw [Event.passes, hsome]; simp)]
  rfl

/-- Steps under refusals are those before the first refusal. -/
theorem runSteps_eq_upToRefusal (refuses : Refusals) (b : Builder)
    (steps : List Step) :
    runSteps refuses b steps
      = upToRefusal refuses (stepEvents b steps)
          (runSteps Refusals.none b steps) := by
  induction steps generalizing b with
  | nil => rfl
  | cons step steps ih =>
    cases step with
    | tell n =>
      rw [runSteps, ih b]
      exact (upToRefusal_told refuses n _ _).symm
    | send c =>
      by_cases hrefused : refuses (b.dialect.encode c) = true
      · rw [stepEvents, upToRefusal_refused hrefused, runSteps,
          Builder.call_of_refused hrefused]
        rfl
      · -- The call gives the next builder, where the statement holds by
        -- induction.
        have hrest : runSteps refuses b (.send c :: steps)
            = (b.call refuses c).andThen
                fun _ => runSteps refuses b.next steps := by
          rw [runSteps, Builder.call_of_not_refused hrefused]
          rfl
        rw [hrest, ih b.next]
        exact (upToRefusal_arrived hrefused _ _).symm

/-- **A run under refusals is the run without them up to the first message
that is refused.** -/
theorem run_eq_upToRefusal (refuses : Refusals) (s : Script) (b : Builder) :
    s.run refuses b
      = upToRefusal refuses (s.events b) (s.run Refusals.none b) := by
  unfold run
  rw [runSteps_eq_upToRefusal]
  unfold upToRefusal events
  cases (stepEvents b s.items).findSome? (Event.refusal? refuses) <;> rfl

/-- **A run that gives a builder** is the run without refusals. -/
theorem run_eq_run_none {refuses : Refusals} {b b' : Builder} {s : Script}
    (h : (s.run refuses b).result = .ok b') :
    s.run refuses b = s.run Refusals.none b := by
  rw [run_eq_upToRefusal] at h ⊢
  unfold upToRefusal at h ⊢
  split at h
  · rfl
  · exact nomatch h

/-! ## What arrives -/

/-- **What arrives is a beginning of what the calls deliver**, whatever ends
the run. -/
theorem exists_deliveries (refuses : Refusals) (s : Script) (b : Builder) :
    ∃ n, (s.run refuses b).entries = b.deliveries (s.calls.take n) := by
  have hwhole : (s.events b).filterMap Event.entry? = b.deliveries s.calls :=
    entries_stepEvents b s.items s.fault
  rw [run_eq_upToRefusal]
  unfold upToRefusal
  split
  · refine ⟨s.calls.length, ?_⟩
    rw [run_none, List.take_length]
  · -- The events before the refusal are a beginning of all events.
    have hprefix := (List.takeWhile_prefix (l := s.events b)
      (Event.passes refuses)).filterMap Event.entry?
    rw [hwhole, List.prefix_iff_eq_take] at hprefix
    exact ⟨_, hprefix.trans (b.take_deliveries s.calls _)⟩

/-- **A run that gives a builder** has made every call, and the builder is as
many generations on. -/
theorem entries_of_run_ok {refuses : Refusals} {b b' : Builder} {s : Script}
    (h : (s.run refuses b).result = .ok b') :
    (s.run refuses b).entries = b.deliveries s.calls
      ∧ b' = b.after (s.run refuses b).entries.length := by
  have hrun := run_eq_run_none h
  have hentries : (s.run refuses b).entries = b.deliveries s.calls := by
    rw [hrun, run_none]
  rw [hrun] at h
  refine ⟨hentries, ?_⟩
  rw [hentries, Builder.length_deliveries]
  exact eq_after_of_run_none h

/-- **Whatever is told is a note of the script**, whatever ends the run. -/
theorem mem_notes_of_mem_run {refuses : Refusals} {b : Builder}
    {s : Script} {n : Note} (hn : n ∈ (s.run refuses b).notes) :
    n ∈ s.notes := by
  have hwhole : (s.events b).filterMap Event.note? = s.notes :=
    notes_stepEvents b s.items s.fault
  rw [run_eq_upToRefusal] at hn
  unfold upToRefusal at hn
  split at hn
  · rwa [run_none] at hn
  · rw [← hwhole]
    exact ((List.takeWhile_sublist (Event.passes refuses)).filterMap
      Event.note?).subset hn

/-- **Whatever arrives was asked for**: what a run sends is the message of
one of the script's calls. -/
theorem exists_call_of_mem_entries {refuses : Refusals} {b : Builder}
    {s : Script} {e : Entry} (he : e ∈ (s.run refuses b).entries) :
    ∃ c ∈ s.calls, ∃ g, e = .sent g (b.dialect.encode c) := by
  obtain ⟨n, hn⟩ := s.exists_deliveries refuses b
  rw [hn] at he
  obtain ⟨c, hc, hg⟩ := Builder.exists_call_of_mem_deliveries he
  exact ⟨c, List.mem_of_mem_take hc, hg⟩

end Script

end DocFilter
