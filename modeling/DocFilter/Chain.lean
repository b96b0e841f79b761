import DocFilter.Builder

/-!
# Chains

An adapted builder offers more than the calls of the contract: whatever
else is asked of it is asked of its request. A **chain** holds the current
builder and is advanced by the calls of the contract alone. A message
that is passed on by its own name gives a bare request, which the chain
does not take up.
-/

namespace DocFilter

namespace Chain

/-- **What can be asked of a chain.** -/
inductive Action where
  /-- A call of the contract. -/
  | call (c : Call)
  /-- A filter message for the request. -/
  | filter (args : List Value) (options : List (String × Value))
  /-- The request is executed. -/
  | execute
  /-- A member of the request is read. -/
  | read (member : String)
  /-- A member of the request is called. -/
  | invoke (member : String)
  /-- The request itself. -/
  | request
  /-- The text of the builder. -/
  | display
  deriving DecidableEq

/-- **What a chain answers.** -/
inductive Answer where
  /-- A new builder, which is the current one from now on. -/
  | advanced
  /-- A value. -/
  | value (v : Value)
  deriving DecidableEq

/-- The name of the type of a request. -/
def requestType : String := "Recorder"

/-- A text that carries the generation of a request. -/
def stamped (word : String) (generation : Nat) : Value :=
  .text (word ++ "@" ++ toString generation)

/-- A member of a request. -/
def member (generation : Nat) (name : String) : Except Fault Value :=
  if name = "params" then .ok (stamped "params" generation)
  else if name = "generation" then .ok (.int generation)
  else .error (.noMember requestType name)

/-- A member of a request, called. No member that can be read can be
called. -/
def invoked (generation : Nat) (name : String) : Except Fault Value :=
  (member generation name).bind fun v => .error (.notCallable v.kind)

/-- **One action on a chain**: the builder that is current after it, and
what happened. -/
def step (refuses : Refusals) (b : Builder) :
    Action → Builder × Run Answer
  | .call c =>
    let r := b.call refuses c
    (r.result.toOption.getD b, r.andThen fun _ => Run.ok .advanced)
  | .filter args options =>
    let r := b.deliver refuses ⟨.filter, args, options⟩
    (b, r.andThen fun b =>
      Run.ok (.value (.text (Builder.requestText b.generation))))
  | .execute => (b, Run.ok (.value (stamped "executed" b.generation)))
  | .read name => (b, (Run.ofExcept (member b.generation name)).andThen
      fun v => Run.ok (.value v))
  | .invoke name => (b, (Run.ofExcept (invoked b.generation name)).andThen
      fun v => Run.ok (.value v))
  | .request =>
    (b, Run.ok (.value (.text (Builder.requestText b.generation))))
  | .display => (b, Run.ok (.value (.text b.text)))

/-- The builder a chain starts with. -/
def start : Builder := ⟨.adapted, 0⟩

/-- Actions one after another: the last builder, and what happened at
each. -/
def steps (refuses : Refusals) (b : Builder) :
    List Action → Builder × List (Run Answer)
  | [] => (b, [])
  | a :: as =>
    let (b, r) := step refuses b a
    let (b, rs) := steps refuses b as
    (b, r :: rs)

end Chain

end DocFilter
