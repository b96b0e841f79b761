import DocFilter.Session

/-!
# Cursors do not touch each other

The cursors of a session share its searches, its backends and the refusals
of their requests, and what they do is interleaved in any order. Still each
goes its own way: take from a session the actions of one cursor – the
binding that opened it, and what names it – and do only these. Then the same
happens at each of them, and the cursor ends on the same builder
(`Session.cursors_isolated`).

In a session of its own a cursor has the number zero, so actions and answers
are renumbered (`Action.single`, `Answer.single`); that is the only change.

The invariant is an equation: the session of the cursor alone is the view
that the whole session has of it, `Session.only`. An action of the cursor
does to the view what it does to the session (`Session.step_only`), any
other leaves the view as it is (`Session.only_step`).
-/

namespace DocFilter

namespace Session

/-- The same action in a session of one cursor. -/
def Action.single : Action → Action
  | .bind search backend resource projection =>
    .bind search backend resource projection
  | .operate _ op => .operate 0 op
  | .read _ => .read 0

/-- The same answer in a session of one cursor. -/
def Answer.single : Answer → Answer
  | .opened _ b => .opened 0 b
  | .current b => .current b
  | .noCursor => .noCursor

/-- What happens, with the same answer in a session of one cursor. -/
def single (r : Run Answer) : Run Answer :=
  ⟨r.entries, r.notes, r.result.map Answer.single⟩

/-- **Whether an action is one of a cursor**, by what happened at it: the
binding that opened the cursor, or an action that names it. -/
def isOwn (cursor : Nat) : Action × Run Answer → Bool
  | (.bind .., r) =>
    match r.result with
    | .ok (.opened c _) => c == cursor
    | _ => false
  | (.operate c _, _) | (.read c, _) => c == cursor

/-- **The view of one cursor**: a session with this one, once it is
opened. -/
def only (cursor : Nat) (s : Session) : Session :=
  ⟨(s.builder? cursor).toList⟩

/-! ## One action -/

section Step

variable {refuses : Refusals} {s : Session} {cursor : Nat}

section Bind

variable {search : Search} {backend : Backend} {resource projection : Value}

/-- A search that is bound opens the next cursor. -/
theorem step_bind_of_ok {b : Builder}
    (h : (search.bindTo refuses backend resource projection).result
      = .ok b) :
    step refuses s (.bind search backend resource projection)
      = (⟨s.builders ++ [b]⟩,
          ⟨(search.bindTo refuses backend resource projection).entries,
            (search.bindTo refuses backend resource projection).notes,
            .ok (.opened s.builders.length b)⟩) := by
  simp [step, Run.andThen, Run.ok, h]

/-- A search that is not bound opens none. -/
theorem step_bind_of_error {f : Fault}
    (h : (search.bindTo refuses backend resource projection).result
      = .error f) :
    step refuses s (.bind search backend resource projection)
      = (s,
          ⟨(search.bindTo refuses backend resource projection).entries,
            (search.bindTo refuses backend resource projection).notes,
            .error f⟩) := by
  simp [step, Run.andThen, h]

end Bind

section Operate

variable {op : CursorOp} {b : Builder}

/-- There is nothing to do without the cursor. -/
theorem step_operate_of_none (h : s.builder? cursor = none) :
    step refuses s (.operate cursor op) = (s, Run.ok .noCursor) := by
  simp [step, h]

/-- An operation that goes through moves its cursor. -/
theorem step_operate_of_ok (hb : s.builder? cursor = some b) {b' : Builder}
    (h : (op.script.run refuses b).result = .ok b') :
    step refuses s (.operate cursor op)
      = (⟨s.builders.set cursor b'⟩,
          ⟨(op.script.run refuses b).entries,
            (op.script.run refuses b).notes, .ok (.current b')⟩) := by
  simp [step, hb, Run.andThen, Run.ok, h]

/-- An operation that does not go through moves none. -/
theorem step_operate_of_error (hb : s.builder? cursor = some b) {f : Fault}
    (h : (op.script.run refuses b).result = .error f) :
    step refuses s (.operate cursor op)
      = (s,
          ⟨(op.script.run refuses b).entries,
            (op.script.run refuses b).notes, .error f⟩) := by
  simp [step, hb, Run.andThen, h]

end Operate

/-- **A cursor that is read shows its builder**, and nothing else
happens. -/
theorem step_read (refuses : Refusals) (s : Session) (cursor : Nat) :
    step refuses s (.read cursor)
      = (s, Run.ok (match s.builder? cursor with
          | some b => .current b
          | none => .noCursor)) := by
  cases h : s.builder? cursor <;> simp [step, h]

end Step

/-! ## The view of a cursor -/

section View

variable {refuses : Refusals} {s : Session} {cursor : Nat} {action : Action}

/-- The view of a cursor has it as its only one. -/
@[simp] theorem builder?_only (cursor : Nat) (s : Session) :
    (s.only cursor).builder? 0 = s.builder? cursor := by
  unfold only
  cases s.builder? cursor <;> rfl

/-- The next cursor is not opened yet. -/
@[simp] theorem builder?_length (s : Session) :
    s.builder? s.builders.length = none :=
  List.getElem?_eq_none (Nat.le_refl _)

/-- Opening a cursor changes no other. -/
theorem builder?_append_of_ne {b : Builder}
    (h : s.builders.length ≠ cursor) :
    builder? ⟨s.builders ++ [b]⟩ cursor = s.builder? cursor := by
  obtain hlt | hgt := Nat.lt_or_gt_of_ne h
  · have hnone : s.builder? cursor = none :=
      List.getElem?_eq_none (Nat.le_of_lt hlt)
    rw [hnone]
    exact List.getElem?_eq_none (by rw [List.length_append]; exact hlt)
  · exact List.getElem?_append_left hgt

/-- The next cursor is the one that is opened. -/
theorem builder?_append_length (s : Session) (b : Builder) :
    builder? ⟨s.builders ++ [b]⟩ s.builders.length = some b :=
  List.getElem?_concat_length

/-- Moving a cursor changes no other. -/
theorem builder?_set_of_ne {c : Nat} {b : Builder} (h : c ≠ cursor) :
    builder? ⟨s.builders.set c b⟩ cursor = s.builder? cursor :=
  List.getElem?_set_ne h

/-- A cursor that is opened can be moved. -/
theorem builder?_set_self {b b' : Builder}
    (h : s.builder? cursor = some b) :
    builder? ⟨s.builders.set cursor b'⟩ cursor = some b' := by
  obtain ⟨hlt, -⟩ := List.getElem?_eq_some_iff.mp h
  exact List.getElem?_set_self hlt

/-- The view of a cursor that is not opened is empty. -/
theorem only_of_none (h : s.builder? cursor = none) :
    s.only cursor = start := by
  rw [only, h]
  rfl

/-- The view of a cursor with a builder. -/
theorem only_of_some {b : Builder} (h : s.builder? cursor = some b) :
    s.only cursor = ⟨[b]⟩ := by
  rw [only, h]
  rfl

/-- **An action of another cursor leaves the view of this one.** -/
theorem only_step (h : isOwn cursor (action, (step refuses s action).2)
    = false) :
    (step refuses s action).1.only cursor = s.only cursor := by
  cases action with
  | bind search backend resource projection =>
    cases hr : (search.bindTo refuses backend resource projection).result with
    | error f => rw [step_bind_of_error hr]
    | ok b =>
      rw [step_bind_of_ok hr] at h ⊢
      exact congrArg (fun b? => Session.mk b?.toList)
        (builder?_append_of_ne (by simpa [isOwn] using h))
  | operate c op =>
    cases hb : s.builder? c with
    | none => rw [step_operate_of_none hb]
    | some b =>
      cases hr : (op.script.run refuses b).result with
      | error f => rw [step_operate_of_error hb hr]
      | ok b' =>
        rw [step_operate_of_ok hb hr]
        exact congrArg (fun b? => Session.mk b?.toList)
          (builder?_set_of_ne (by simpa [isOwn] using h))
  | read c => rw [step_read]

/-- **An action of a cursor does to its view what it does to the session**,
and the same happens. -/
theorem step_only (h : isOwn cursor (action, (step refuses s action).2)
    = true) :
    step refuses (s.only cursor) action.single
      = ((step refuses s action).1.only cursor,
          single (step refuses s action).2) := by
  cases action with
  | bind search backend resource projection =>
    cases hr : (search.bindTo refuses backend resource projection).result with
    | error f =>
      rw [step_bind_of_error hr] at h
      exact nomatch h
    | ok b =>
      rw [step_bind_of_ok hr] at h ⊢
      obtain rfl : s.builders.length = cursor := by simpa [isOwn] using h
      rw [only_of_none s.builder?_length,
        only_of_some (s.builder?_append_length b), Action.single,
        step_bind_of_ok hr]
      rfl
  | operate c op =>
    obtain rfl : c = cursor := by simpa [isOwn] using h
    have hview := builder?_only c s
    cases hb : s.builder? c with
    | none =>
      rw [hb] at hview
      rw [Action.single, step_operate_of_none hview, step_operate_of_none hb]
      rfl
    | some b =>
      rw [hb] at hview
      cases hr : (op.script.run refuses b).result with
      | error f =>
        rw [Action.single, step_operate_of_error hview hr,
          step_operate_of_error hb hr]
        rfl
      | ok b' =>
        rw [Action.single, step_operate_of_ok hview hr,
          step_operate_of_ok hb hr, only_of_some (builder?_set_self hb),
          only_of_some hb]
        rfl
  | read c =>
    obtain rfl : c = cursor := by simpa [isOwn] using h
    rw [Action.single, step_read, step_read, builder?_only]
    cases s.builder? c <;> rfl

end View

/-! ## Whole sessions -/

/-- The first action, and then the others. -/
theorem steps_cons (refuses : Refusals) (s : Session) (action : Action)
    (actions : List Action) :
    steps refuses s (action :: actions)
      = ((steps refuses (step refuses s action).1 actions).1,
          (step refuses s action).2
            :: (steps refuses (step refuses s action).1 actions).2) := rfl

/-- **The actions of a session, with what happens at each.** -/
def transcript (refuses : Refusals) (s : Session) (actions : List Action) :
    List (Action × Run Answer) :=
  actions.zip (steps refuses s actions).2

theorem transcript_cons (refuses : Refusals) (s : Session) (action : Action)
    (actions : List Action) :
    transcript refuses s (action :: actions)
      = (action, (step refuses s action).2)
          :: transcript refuses (step refuses s action).1 actions := rfl

/-- **The transcript of one cursor.** -/
def ownTranscript (refuses : Refusals) (s : Session) (cursor : Nat)
    (actions : List Action) : List (Action × Run Answer) :=
  (transcript refuses s actions).filter (isOwn cursor)

/-- **What a cursor does alone** is what it does among the others: its
actions keep the view of the cursor and the session in step. -/
theorem steps_only (refuses : Refusals) (s : Session) (cursor : Nat)
    (actions : List Action) :
    steps refuses (s.only cursor)
        ((ownTranscript refuses s cursor actions).map fun p => p.1.single)
      = ((steps refuses s actions).1.only cursor,
          (ownTranscript refuses s cursor actions).map
            fun p => single p.2) := by
  induction actions generalizing s with
  | nil => rfl
  | cons action actions ih =>
    have hrest := ih (step refuses s action).1
    rw [steps_cons]
    unfold ownTranscript at hrest ⊢
    rw [transcript_cons, List.filter_cons]
    split
    · next hown =>
      rw [List.map_cons, List.map_cons, steps_cons, step_only hown, hrest]
    · next hother =>
      rw [← only_step (eq_false_of_ne_true hother), hrest]

/-- **Cursors are isolated from each other.** Whatever is done in a session,
on whatever backends and under whatever refusals, take the transcript of one
cursor: the binding that opened it and what it did. Doing only these actions
in a session of their own,

* the same happens at each of them: the same messages reach requests of the
  same generations, the same notes are left, and the same fault or the same
  answer comes out, on a cursor that now has the number zero;
* the cursor ends on the same builder.

And a cursor that is read, in any session, shows the builder it has. Nothing
is sent or told, and no cursor changes. -/
theorem cursors_isolated (refuses : Refusals) (actions : List Action)
    (cursor : Nat) :
    let own := ownTranscript refuses start cursor actions
    let alone := steps refuses start (own.map fun p => p.1.single)
    alone.2 = own.map (fun p => single p.2)
      ∧ alone.1.builder? 0
        = (steps refuses start actions).1.builder? cursor
      ∧ ∀ (s : Session) (c : Nat), step refuses s (.read c)
        = (s, Run.ok (match s.builder? c with
            | some b => .current b
            | none => .noCursor)) := by
  intro own alone
  have halone := steps_only refuses start cursor actions
  refine ⟨congrArg Prod.snd halone, ?_, step_read refuses⟩
  exact (congrArg (fun r => r.1.builder? 0) halone).trans
    (builder?_only cursor _)

/-- A handle that gives builders by its source. -/
def sourceHandle : Handle where
  typeName := "Client"
  fullName := "Client"
  home := "postgrest"
  access := fun
    | .source => .callable
    | .table => .missing
  isClient := true

/-- Two cursors on one client, taking turns. The first is sorted by two
columns, of which the second is refused: what it sent before stays sent, the
cursor stays where it was, and its limit goes on from there – alone as among
the others. -/
theorem cursors_isolated_after_refusal :
    let refuses := Refusals.ofList [⟨"order", .text "b"⟩]
    let search : Search := ⟨.doc [(.text "x", .int 1)]⟩
    let bind : Action :=
      .bind search (.bare sourceHandle) (.text "t") .null
    let sort : Value := .doc [(.text "a", .int 1), (.text "b", .int 1)]
    let actions : List Action :=
      [bind, bind, .operate 0 (.sort sort), .operate 1 (.limit (.int 9)),
       .operate 0 (.limit (.int 3)), .read 1, .read 0]
    let own := ownTranscript refuses start 0 actions
    let alone := steps refuses start (own.map fun p => p.1.single)
    alone.2 = own.map (fun p => single p.2)
      ∧ alone.2.map Run.entries
        = [[.opened .source (.text "t"),
            .sent 0 ⟨.select, [.text "*"], []⟩,
            .sent 1 ⟨.compare .eq, [.text "x", .int 1], []⟩],
           [.sent 2 ⟨.order, [.text "a"], [("desc", .bool false)]⟩],
           [.sent 2 ⟨.limit, [.int 3], []⟩],
           []]
      ∧ (steps refuses start actions).1.builder? 0
        = some ⟨.adapted, 3⟩ := by
  intro refuses search bind sort actions own alone
  obtain ⟨hruns, hend, -⟩ := cursors_isolated refuses actions 0
  refine ⟨hruns, by decide +kernel, hend.symm.trans ?_⟩
  decide +kernel

end Session

end DocFilter
