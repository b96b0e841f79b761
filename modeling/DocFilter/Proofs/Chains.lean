import Mathlib.Data.List.Basic
import DocFilter.Chain
import DocFilter.Proofs.Delivery

/-!
# A chain is advanced by its calls alone

Whatever is asked of a chain, its builder moves on in one case only: a call
of the contract that is not refused (`Chain.advances`). Then it moves by one
generation. Everything else – a message that is passed on, a member that is
read, the request itself, a text, and whatever fails – leaves the builder
where it was, even a filter message, which reaches the request and gives a
new one that the chain does not take up.

That is the step lemma, `Chain.step_builder`. Along a run it becomes a count
(`Chain.steps_builder`): the generation of the builder is the number of calls
that went through. The main statement, `Chain.advanced_by_calls_alone`, says
of any action in any run what happens at it, in terms of this number and
nothing else of what went before.
-/

namespace DocFilter

namespace Chain

/-- Whether an action is a call of the contract. -/
def Action.isCall : Action → Bool
  | .call _ => true
  | _ => false

/-- Whether an action sends a message to the request. -/
def Action.sends : Action → Bool
  | .call _ | .filter .. => true
  | _ => false

/-- **Whether an action advanced the chain**: a call of the contract that
went through. -/
def advances (p : Action × Run Answer) : Bool :=
  p.1.isCall && p.2.result.isOk

/-! ## One action -/

section Step

variable {refuses : Refusals} {b : Builder}

/-- A call that is refused does nothing. -/
theorem step_call_of_refused {c : Call}
    (h : refuses (b.dialect.encode c) = true) :
    step refuses b (.call c)
      = (b, Run.fail (.refused (b.dialect.encode c).method.name)) := by
  unfold step
  dsimp only
  rw [Builder.call_of_refused h]
  rfl

/-- **A call that goes through** arrives once, and the chain goes on from the
builder it gives. -/
theorem step_call_of_not_refused {c : Call}
    (h : ¬ refuses (b.dialect.encode c) = true) :
    step refuses b (.call c)
      = (b.next, ⟨[.sent b.generation (b.dialect.encode c)], [],
          .ok .advanced⟩) := by
  unfold step
  dsimp only
  rw [Builder.call_of_not_refused h, Builder.call_none]
  rfl

/-- A filter message that is refused does nothing. -/
theorem step_filter_of_refused {args : List Value}
    {options : List (String × Value)}
    (h : refuses ⟨.filter, args, options⟩ = true) :
    step refuses b (.filter args options)
      = (b, Run.fail (.refused "filter")) := by
  unfold step Builder.deliver
  dsimp only
  rw [if_pos h]
  rfl

/-- **A filter message that goes through** arrives, and gives a request one
generation on; the chain stays where it is. -/
theorem step_filter_of_not_refused {args : List Value}
    {options : List (String × Value)}
    (h : ¬ refuses ⟨.filter, args, options⟩ = true) :
    step refuses b (.filter args options)
      = (b, ⟨[.sent b.generation ⟨.filter, args, options⟩], [],
          .ok (.value (.text (Builder.requestText (b.generation + 1))))⟩) := by
  unfold step Builder.deliver
  dsimp only
  rw [if_neg h]
  rfl

/-- **An action that sends nothing** leaves the builder as it is: it has an
answer or a fault, and that is all. -/
theorem exists_step_of_not_sends (refuses : Refusals) (b : Builder)
    {a : Action} (h : a.sends = false) :
    ∃ r, step refuses b a = (b, Run.ofExcept r) := by
  have hvalue (r : Except Fault Value) :
      ((Run.ofExcept r).andThen fun v => Run.ok (Answer.value v))
        = Run.ofExcept (r.map Answer.value) := by
    cases r <;> rfl
  cases a with
  | call c => exact nomatch h
  | filter args options => exact nomatch h
  | execute => exact ⟨.ok _, rfl⟩
  | read name => exact ⟨_, congrArg (Prod.mk b) (hvalue _)⟩
  | invoke name => exact ⟨_, congrArg (Prod.mk b) (hvalue _)⟩
  | request => exact ⟨.ok _, rfl⟩
  | display => exact ⟨.ok _, rfl⟩

/-- **An action that fails does nothing**: the builder is what it was, and
nothing was sent. -/
theorem step_of_error {a : Action} {f : Fault}
    (h : (step refuses b a).2.result = .error f) :
    step refuses b a = (b, Run.fail f) := by
  cases hsends : a.sends with
  | false =>
    obtain ⟨r, hr⟩ := exists_step_of_not_sends refuses b hsends
    rw [hr] at h ⊢
    exact congrArg (fun r => (b, Run.ofExcept r)) h
  | true =>
    cases a with
    | call c =>
      by_cases hrefused : refuses (b.dialect.encode c) = true
      · rw [step_call_of_refused hrefused] at h ⊢
        rw [Except.error.inj h]
      · rw [step_call_of_not_refused hrefused] at h
        exact nomatch h
    | filter args options =>
      by_cases hrefused : refuses ⟨.filter, args, options⟩ = true
      · rw [step_filter_of_refused hrefused] at h ⊢
        rw [Except.error.inj h]
      · rw [step_filter_of_not_refused hrefused] at h
        exact nomatch h
    | _ => exact nomatch hsends

/-- An action that is no call leaves the builder. -/
theorem step_of_not_isCall {a : Action} (h : a.isCall = false) :
    (step refuses b a).1 = b := by
  cases a with
  | call c => exact nomatch h
  | _ => rfl

/-- **One action advances the builder by one generation or not at all**, and
it does exactly if it is a call that goes through. -/
theorem step_builder (refuses : Refusals) (b : Builder) (a : Action) :
    (step refuses b a).1
      = b.after (if advances (a, (step refuses b a).2) then 1 else 0) := by
  cases hcall : a.isCall with
  | false =>
    have hstays : advances (a, (step refuses b a).2) = false := by
      rw [advances, hcall, Bool.false_and]
    rw [hstays, step_of_not_isCall hcall]
    rfl
  | true =>
    cases a with
    | call c =>
      by_cases hrefused : refuses (b.dialect.encode c) = true
      · rw [step_call_of_refused hrefused]
        rfl
      · rw [step_call_of_not_refused hrefused]
        rfl
    | _ => exact nomatch hcall

end Step

/-! ## Whole runs -/

/-- The first action, and then the others. -/
theorem steps_cons (refuses : Refusals) (b : Builder) (a : Action)
    (actions : List Action) :
    steps refuses b (a :: actions)
      = ((steps refuses (step refuses b a).1 actions).1,
          (step refuses b a).2
            :: (steps refuses (step refuses b a).1 actions).2) := rfl

/-- Some actions, and then others from where they led. -/
theorem steps_append (refuses : Refusals) (b : Builder)
    (actions others : List Action) :
    steps refuses b (actions ++ others)
      = ((steps refuses (steps refuses b actions).1 others).1,
          (steps refuses b actions).2
            ++ (steps refuses (steps refuses b actions).1 others).2) := by
  induction actions generalizing b with
  | nil => rfl
  | cons a actions ih =>
    rw [List.cons_append, steps_cons, ih (step refuses b a).1]
    rfl

/-- At every action something happens. -/
theorem length_steps (refuses : Refusals) (b : Builder)
    (actions : List Action) :
    (steps refuses b actions).2.length = actions.length := by
  induction actions generalizing b with
  | nil => rfl
  | cons a actions ih => exact congrArg (· + 1) (ih (step refuses b a).1)

/-- **The actions on a chain, with what happens at each.** -/
def transcript (refuses : Refusals) (b : Builder) (actions : List Action) :
    List (Action × Run Answer) :=
  actions.zip (steps refuses b actions).2

/-- **The builder of a chain is as many generations on as calls went
through.** -/
theorem steps_builder (refuses : Refusals) (b : Builder)
    (actions : List Action) :
    (steps refuses b actions).1
      = b.after ((transcript refuses b actions).countP advances) := by
  induction actions generalizing b with
  | nil => rfl
  | cons a actions ih =>
    have hrest := ih (step refuses b a).1
    rw [steps_cons]
    show (steps refuses (step refuses b a).1 actions).1
      = b.after (List.countP advances ((a, (step refuses b a).2)
          :: transcript refuses (step refuses b a).1 actions))
    rw [hrest, List.countP_cons]
    generalize (transcript refuses (step refuses b a).1 actions).countP advances
      = n
    rw [step_builder]
    show (⟨b.dialect, b.generation + _ + n⟩ : Builder) = ⟨b.dialect, _⟩
    rw [Nat.add_assoc, Nat.add_comm n]

/-- **A chain advances by calls of the contract alone.** Take any action in
any run on a chain, under any refusals, and let `earlier` be the number of
calls that went through before it. Then the builder is an adapter around the
request of just this generation, and

* a call that is not refused arrives once, at this request, and from then on
  the builder is an adapter around the request it gave; a call that is
  refused does nothing;
* a filter message that is not refused arrives at this request as well, and
  the answer is the request it gave, one generation on; but the builder stays
  what it was;
* nothing else reaches the request or changes the builder;
* whatever fails does nothing. -/
theorem advanced_by_calls_alone (refuses : Refusals)
    (before : List Action) (a : Action) (after : List Action) :
    let earlier := (transcript refuses start before).countP advances
    let b : Builder := ⟨.adapted, earlier⟩
    let now := step refuses b a
    (steps refuses start before).1 = b
      ∧ (steps refuses start (before ++ [a])).1 = now.1
      ∧ (steps refuses start (before ++ a :: after)).2[before.length]?
        = some now.2
      ∧ (match a with
        | .call c =>
          now = if refuses c.adapted
            then (b, Run.fail (.refused c.adapted.method.name))
            else (⟨.adapted, earlier + 1⟩,
              ⟨[.sent earlier c.adapted], [], .ok .advanced⟩)
        | .filter args options =>
          now = if refuses ⟨.filter, args, options⟩
            then (b, Run.fail (.refused "filter"))
            else (b, ⟨[.sent earlier ⟨.filter, args, options⟩], [],
              .ok (.value (.text (Builder.requestText (earlier + 1))))⟩)
        | _ => now.1 = b ∧ now.2.entries = [])
      ∧ ∀ f, now.2.result = .error f → now = (b, Run.fail f) := by
  intro earlier b now
  have hbefore : (steps refuses start before).1 = b := by
    rw [steps_builder]
    show (⟨.adapted, 0 + earlier⟩ : Builder) = ⟨.adapted, earlier⟩
    rw [Nat.zero_add]
  refine ⟨hbefore, ?_, ?_, ?_, fun f => step_of_error⟩
  · rw [steps_append, hbefore]
    rfl
  · rw [steps_append, hbefore, steps_cons,
      ← length_steps refuses start before]
    show ((steps refuses start before).2 ++ now.2 :: _)[_]? = some now.2
    rw [List.getElem?_append_right (Nat.le_refl _), Nat.sub_self]
    rfl
  · cases a with
    | call c =>
      dsimp only
      split
      · next h => exact step_call_of_refused (b := b) h
      · next h => exact step_call_of_not_refused (b := b) h
    | filter args options =>
      dsimp only
      split
      · next h => exact step_filter_of_refused h
      · next h => exact step_filter_of_not_refused h
    | _ =>
      obtain ⟨r, hr⟩ : ∃ r, now = (b, Run.ofExcept r) :=
        exists_step_of_not_sends refuses b rfl
      dsimp only
      rw [hr]
      exact ⟨rfl, rfl⟩

/-- A call, a filter message, a call that is refused, a member that is
missing, and a call again: the filter message and the second call arrive at
the same request, and the builder ends two generations on. -/
theorem advanced_by_calls_alone_past_filter :
    let refuses := Refusals.ofList [⟨"limit", .int 9⟩]
    let before : List Action :=
      [.call (.compare .eq (.text "a") (.int 1)),
       .filter [.text "b", .text "eq", .text "2"] [],
       .call (.limit (.int 9)), .read "nothing"]
    let a : Action := .call (.not (.text "c") (.text "is") .null)
    let run := steps refuses start (before ++ [a])
    (step refuses ⟨.adapted, 1⟩ (.call (.limit (.int 9)))).2.result
        = .error (.refused "limit")
      ∧ step refuses ⟨.adapted, 1⟩ (.call (.limit (.int 9)))
        = (⟨.adapted, 1⟩, Run.fail (.refused "limit"))
      ∧ run.2.map Run.entries
        = [[.sent 0 ⟨.compare .eq, [.text "a", .int 1], []⟩],
           [.sent 1 ⟨.filter, [.text "b", .text "eq", .text "2"], []⟩],
           [], [],
           [.sent 1 ⟨.filter, [.text "c", .text "not.is", .text "null"],
             []⟩]]
      ∧ run.1 = ⟨.adapted, 2⟩ := by
  intro refuses before a run
  obtain ⟨-, -, -, -, hfault⟩ :=
    advanced_by_calls_alone refuses (before.take 2) (.call (.limit (.int 9)))
      []
  obtain ⟨-, hlast, -, hcall, -⟩ := advanced_by_calls_alone refuses before a []
  refine ⟨rfl, hfault _ rfl, by decide +kernel, hlast.trans ?_⟩
  exact congrArg Prod.fst hcall

end Chain

end DocFilter
