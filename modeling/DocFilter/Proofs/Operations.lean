import DocFilter.Proofs.Delivery
import DocFilter.Proofs.Isolation

/-!
# An operation moves its cursor as a whole or not at all

What a cursor is asked for comes down to some calls, or to a fault before any
of them (`CursorOp.calls?`): one order for each column of a sort order, one
call for each of the others. On a builder there are then three ways for it to
go (`CursorOp.Goes`). All calls go through, and there is a builder so many
generations on; or there were no calls to make; or one of the calls is
refused, at any position, after those before it have arrived.

Only in the first case does the cursor of a session move
(`Session.operation_all_or_nothing`). In the other two it stays on its
builder, although some orders may have been sent from there; and it stays
there whatever is done next, as long as no operation of this cursor goes
through (`Session.builder?_steps_of_not_moves`). So the next one that does
begins where the failed one began.
-/

namespace DocFilter

/-! ## Calls one after another -/

/-- **The calls a cursor is asked for**, or the fault before any of them. A
sort order is one order for each of its columns, in their order. -/
def CursorOp.calls? : CursorOp → Except Fault (List Call)
  | sort order => order.members.map fun ms =>
    ms.map fun m => .order m.1.toValue (.bool (SortOrder.ascends m.2))
  | page offset => (pageEnd offset).map fun last => [.range offset last]
  | limit count => .ok [.limit count]
  | range first last => .ok [.range first last]

/-- **The ways calls can go on a builder**: all of them arrive, one for each
generation; or those before the first that is refused; or there are none to
make. -/
inductive Builder.Takes (refuses : Refusals) (b : Builder)
    (asked : Except Fault (List Call)) : Run Builder → Prop where
  | all {calls : List Call} (hasked : asked = .ok calls)
    (hpass : ∀ c ∈ calls, ¬ refuses (b.dialect.encode c) = true) :
    Takes refuses b asked
      ⟨b.deliveries calls, [], .ok (b.after calls.length)⟩
  | upTo {done rest : List Call} {c : Call}
    (hasked : asked = .ok (done ++ c :: rest))
    (hpass : ∀ d ∈ done, ¬ refuses (b.dialect.encode d) = true)
    (hrefused : refuses (b.dialect.encode c) = true) :
    Takes refuses b asked
      ⟨b.deliveries done, [],
        .error (.refused (b.dialect.encode c).method.name)⟩
  | none {f : Fault} (hasked : asked = .error f) :
    Takes refuses b asked (Run.fail f)

/-- **Calls one after another** go one of these ways. -/
theorem Script.takes_run_sendAll (refuses : Refusals) (b : Builder)
    (calls : List Call) :
    b.Takes refuses (.ok calls) ((sendAll calls).run refuses b) := by
  -- Each call is made on the builder that the one before it gave.
  induction calls generalizing b with
  | nil => exact .all rfl fun c hc => absurd hc List.not_mem_nil
  | cons c calls ih =>
    rw [run_sendAll_cons]
    by_cases hrefused : refuses (b.dialect.encode c) = true
    · rw [Builder.call_of_refused hrefused]
      show b.Takes refuses _ ⟨b.deliveries [], [], .error _⟩
      exact .upTo rfl (fun d hd => absurd hd List.not_mem_nil) hrefused
    · rw [Builder.call_of_not_refused hrefused, Builder.call_none]
      have hrest := ih b.next
      show b.Takes refuses _
        (Run.mk ([_] ++ ((sendAll calls).run refuses b.next).entries)
          ([] ++ ((sendAll calls).run refuses b.next).notes)
          ((sendAll calls).run refuses b.next).result)
      generalize (sendAll calls).run refuses b.next = r at hrest
      cases hrest with
      | all hasked hpass =>
        obtain rfl := Except.ok.inj hasked
        rw [Builder.after_next]
        exact .all rfl (List.forall_mem_cons.mpr ⟨hrefused, hpass⟩)
      | @upTo done rest d hasked hpass hlast =>
        obtain rfl := Except.ok.inj hasked
        show b.Takes refuses _ ⟨b.deliveries (c :: done), [], .error _⟩
        exact .upTo rfl (List.forall_mem_cons.mpr ⟨hrefused, hpass⟩) hlast
      | none hasked => exact nomatch hasked

namespace CursorOp

/-- The script of an operation is that of its calls. -/
theorem script_eq (op : CursorOp) :
    op.script = match op.calls? with
      | .ok calls => Script.sendAll calls
      | .error f => Trail.stop f := by
  cases op with
  | sort order =>
    unfold script SortOrder.script calls?
    dsimp only
    cases order.members with
    | error f => rfl
    | ok ms =>
      show _ = Script.sendAll (ms.map _)
      rw [← Script.concat_map_send, List.map_map]
      rfl
  | page offset =>
    unfold script calls?
    dsimp only
    cases pageEnd offset <;> rfl
  | limit count => rfl
  | range first last => rfl

/-- **An operation on a builder** is its calls. -/
theorem takes_run (refuses : Refusals) (b : Builder) (op : CursorOp) :
    b.Takes refuses op.calls? (op.script.run refuses b) := by
  rw [script_eq]
  cases h : op.calls? with
  | ok calls => exact Script.takes_run_sendAll refuses b calls
  | error f => exact .none rfl

/-- **A page needs a number for its offset.** -/
theorem pageEnd_of_not_number {offset : Value}
    (h : offset.kind ∉ [.bool, .int, .float]) :
    pageEnd offset = .error (.notOffset offset.kind) := by
  unfold pageEnd
  split
  · exact absurd List.mem_cons_self h
  · exact absurd (List.mem_cons_of_mem _ List.mem_cons_self) h
  · exact absurd (List.mem_cons_of_mem _ (List.mem_cons_of_mem _
      List.mem_cons_self)) h
  · rfl

end CursorOp

namespace Session

/-! ## What moves a cursor -/

/-- **Whether an action moved a cursor**: an operation of the cursor that
went through. -/
def moves (cursor : Nat) : Action × Run Answer → Bool
  | (.operate c _, r) => c == cursor && r.result.isOk
  | _ => false

section Moves

variable {refuses : Refusals} {s : Session} {cursor : Nat} {b : Builder}

/-- An action that does not move a cursor leaves it on its builder. -/
theorem builder?_step_of_not_moves {action : Action}
    (hb : s.builder? cursor = some b)
    (h : moves cursor (action, (step refuses s action).2) = false) :
    (step refuses s action).1.builder? cursor = some b := by
  cases action with
  | bind search backend resource projection =>
    cases hr : (search.bindTo refuses backend resource projection).result with
    | error f => rwa [step_bind_of_error hr]
    | ok b' =>
      -- The cursor that is opened is a new one.
      have hne : s.builders.length ≠ cursor := by
        rintro rfl
        rw [builder?_length] at hb
        exact nomatch hb
      rw [step_bind_of_ok hr, builder?_append_of_ne hne, hb]
  | operate c op =>
    cases hc : s.builder? c with
    | none => rwa [step_operate_of_none hc]
    | some b₀ =>
      cases hr : (op.script.run refuses b₀).result with
      | error f => rwa [step_operate_of_error hc hr]
      | ok b' =>
        rw [step_operate_of_ok hc hr] at h ⊢
        have hne : c ≠ cursor := by
          rintro rfl
          simp [moves, Except.isOk, Except.toBool] at h
        rw [builder?_set_of_ne hne, hb]
  | read c => rwa [step_read]

/-- **A cursor stays on its builder** for as long as none of its operations
goes through, whatever else is done. -/
theorem builder?_steps_of_not_moves (hb : s.builder? cursor = some b)
    {actions : List Action}
    (h : ∀ p ∈ transcript refuses s actions, moves cursor p = false) :
    (steps refuses s actions).1.builder? cursor = some b := by
  induction actions generalizing s with
  | nil => exact hb
  | cons action actions ih =>
    rw [transcript_cons, List.forall_mem_cons] at h
    rw [steps_cons]
    exact ih (builder?_step_of_not_moves hb h.1) h.2

/-- A cursor that is read shows its builder. -/
theorem step_read_of_some (hb : s.builder? cursor = some b) :
    step refuses s (.read cursor) = (s, Run.ok (.current b)) := by
  rw [step_read, hb]

/-- **An operation that goes through** has made all of its calls, and the
cursor is so many generations on. -/
theorem operate_of_ok {op : CursorOp} (hb : s.builder? cursor = some b)
    {answer : Answer}
    (h : (step refuses s (.operate cursor op)).2.result = .ok answer) :
    ∃ calls, op.calls? = .ok calls
      ∧ (∀ c ∈ calls, ¬ refuses (b.dialect.encode c) = true)
      ∧ step refuses s (.operate cursor op)
        = (⟨s.builders.set cursor (b.after calls.length)⟩,
            ⟨b.deliveries calls, [],
              .ok (.current (b.after calls.length))⟩) := by
  have htakes := op.takes_run refuses b
  cases hr : (op.script.run refuses b).result with
  | error f =>
    rw [step_operate_of_error hb hr] at h
    exact nomatch h
  | ok b' =>
    rw [step_operate_of_ok hb hr]
    generalize op.script.run refuses b = r at htakes hr
    cases htakes with
    | all hasked hpass =>
      obtain rfl := Except.ok.inj hr
      exact ⟨_, hasked, hpass, rfl⟩
    | upTo => exact nomatch hr
    | none => exact nomatch hr

/-- **An operation that fails** leaves the session as it is, with what was
sent before it failed. -/
theorem operate_of_error {op : CursorOp} (hb : s.builder? cursor = some b)
    {f : Fault}
    (h : (step refuses s (.operate cursor op)).2.result = .error f) :
    ∃ entries, step refuses s (.operate cursor op)
        = (s, ⟨entries, [], .error f⟩)
      ∧ b.Takes refuses op.calls? ⟨entries, [], .error f⟩ := by
  have htakes := op.takes_run refuses b
  cases hr : (op.script.run refuses b).result with
  | ok b' =>
    rw [step_operate_of_ok hb hr] at h
    exact nomatch h
  | error g =>
    rw [step_operate_of_error hb hr] at h ⊢
    obtain rfl := Except.error.inj h
    generalize op.script.run refuses b = r at htakes hr ⊢
    obtain ⟨entries, notes, result⟩ := r
    obtain rfl : result = .error g := hr
    have hnotes : notes = [] := by cases htakes <;> rfl
    subst hnotes
    exact ⟨entries, rfl, htakes⟩

end Moves

/-- **A cursor operation is done as a whole or leaves its cursor as it
was.** In any session and under any refusals, let a cursor be on a builder
and do an operation.

* If it fails, the session is what it was. Either there were no calls to
  make, or one of them was refused: then those before it have arrived, as many
  as there are. From there on, whatever is done, as long as no operation of
  this cursor goes through, the cursor shows the builder from before; and the
  next operation of it that goes through makes its calls from this builder's
  generation on.
* If it goes through, it is the same cursor that goes on, and it shows a
  builder that is as many generations on as the operation has calls: one order
  for each column of a sort order, one call for each of the others.
* A page whose offset is no number fails before any call. -/
theorem operation_all_or_nothing (refuses : Refusals) (s : Session)
    (cursor : Nat) (b : Builder) (hb : s.builder? cursor = some b)
    (op : CursorOp) :
    let now := step refuses s (.operate cursor op)
    (∀ f, now.2.result = .error f →
        now.1 = s
          ∧ b.Takes refuses op.calls? ⟨now.2.entries, [], .error f⟩
          ∧ ∀ later, (∀ p ∈ transcript refuses s later,
              moves cursor p = false) →
            let t := (steps refuses s later).1
            step refuses t (.read cursor) = (t, Run.ok (.current b))
              ∧ ∀ next answer,
                (step refuses t (.operate cursor next)).2.result
                  = .ok answer →
                ∃ calls, next.calls? = .ok calls
                  ∧ (step refuses t (.operate cursor next)).2.entries
                    = b.deliveries calls)
      ∧ (∀ answer, now.2.result = .ok answer →
        ∃ calls, op.calls? = .ok calls
          ∧ let moved : Builder :=
              ⟨b.dialect, b.generation + calls.length⟩
            now = (⟨s.builders.set cursor moved⟩,
                ⟨b.deliveries calls, [], .ok (.current moved)⟩)
              ∧ step refuses now.1 (.read cursor)
                = (now.1, Run.ok (.current moved)))
      ∧ ∀ offset, op = .page offset → offset.kind ∉ [.bool, .int, .float] →
        now = (s, Run.fail (.notOffset offset.kind)) := by
  intro now
  refine ⟨fun f hf => ?_, fun answer hanswer => ?_, ?_⟩
  · obtain ⟨entries, hnow, htakes⟩ := operate_of_error hb hf
    change now = _ at hnow
    rw [hnow]
    refine ⟨rfl, htakes, fun later hlater => ?_⟩
    have hstays := builder?_steps_of_not_moves hb hlater
    refine ⟨step_read_of_some hstays, fun next answer hanswer => ?_⟩
    obtain ⟨calls, hcalls, -, hnext⟩ := operate_of_ok hstays hanswer
    exact ⟨calls, hcalls, congrArg (fun r => r.2.entries) hnext⟩
  · obtain ⟨calls, hcalls, -, hnow⟩ := operate_of_ok hb hanswer
    change now = _ at hnow
    refine ⟨calls, hcalls, hnow, ?_⟩
    rw [hnow]
    exact step_read_of_some (builder?_set_self hb)
  · rintro offset rfl hoffset
    have hstop : (CursorOp.page offset).script
        = Trail.stop (.notOffset offset.kind) := by
      unfold CursorOp.script
      dsimp only
      rw [CursorOp.pageEnd_of_not_number hoffset]
    have hrun : (CursorOp.page offset).script.run refuses b
        = Run.fail (.notOffset offset.kind) := by
      rw [hstop]
      rfl
    have hnow := step_operate_of_error hb (congrArg Run.result hrun)
    rw [hrun] at hnow
    exact hnow

/-- A sort by three columns of which the last is refused, then a page from
nowhere, then a limit: the two orders before the refusal have arrived on
generations two and three, and the limit arrives on generation two. -/
theorem operation_all_or_nothing_mid_sort :
    let refuses := Refusals.ofList [⟨"order", .text "c"⟩]
    let s : Session := ⟨[⟨.plain, 1⟩, ⟨.adapted, 2⟩]⟩
    let order : Value :=
      .doc [(.text "a", .int 1), (.text "b", .text "desc"),
        (.text "c", .int 1)]
    let later : List Action := [.operate 1 (.page .null), .read 0]
    let t := (steps refuses s later).1
    s.builder? 1 = some ⟨.adapted, 2⟩
      ∧ (step refuses s (.operate 1 (.sort order))).2.entries
        = [.sent 2 ⟨.order, [.text "a"], [("desc", .bool false)]⟩,
           .sent 3 ⟨.order, [.text "b"], [("desc", .bool true)]⟩]
      ∧ (step refuses s (.operate 1 (.sort order))).1 = s
      ∧ step refuses t (.read 1) = (t, Run.ok (.current ⟨.adapted, 2⟩))
      ∧ (step refuses t (.operate 1 (.limit (.int 3)))).2.entries
        = [.sent 2 ⟨.limit, [.int 3], []⟩]
      ∧ step refuses s (.operate 1 (.page .null))
        = (s, Run.fail (.notOffset .null)) := by
  intro refuses s order later t
  obtain ⟨hsort, -, -⟩ :=
    operation_all_or_nothing refuses s 1 ⟨.adapted, 2⟩ rfl (.sort order)
  obtain ⟨-, -, hpage⟩ :=
    operation_all_or_nothing refuses s 1 ⟨.adapted, 2⟩ rfl (.page .null)
  have hrefused : (step refuses s (.operate 1 (.sort order))).2.result
      = .error (.refused "order") := rfl
  obtain ⟨hkept, -, hlater⟩ := hsort _ hrefused
  have hstill : ∀ p ∈ transcript refuses s later, moves 1 p = false := by
    decide +kernel
  obtain ⟨hread, hnext⟩ := hlater later hstill
  obtain ⟨calls, hcalls, hentries⟩ := hnext (.limit (.int 3)) _ rfl
  obtain rfl := Except.ok.inj hcalls
  exact ⟨rfl, by decide +kernel, hkept, hread, hentries,
    hpage .null rfl (by decide)⟩

end Session

end DocFilter
