import DocFilter.Run
import DocFilter.Script
import DocFilter.Value.Equality

/-!
# Builders

A **builder** wraps a request and passes calls on to it, in one of two
dialects. A request is known by its **generation**: each message it
receives gives a new request of the next generation, and a builder around
it. A request may refuse a message; then nothing reaches it, and the
builder is what it was.
-/

namespace DocFilter

/-- How a builder spells its calls. -/
inductive Dialect where
  /-- As they are. -/
  | plain
  /-- As a PostgREST request understands them. -/
  | adapted
  deriving DecidableEq

/-- The message of a call in a dialect. -/
def Dialect.encode : Dialect → Call → Message
  | plain, c => c.plain
  | adapted, c => c.adapted

/-- **A builder.** -/
structure Builder where
  /-- How it spells its calls. -/
  dialect : Dialect
  /-- How many messages its request has seen. -/
  generation : Nat
  deriving DecidableEq

/-- **Which messages a request refuses.** -/
abbrev Refusals := Message → Bool

/-- A method refused for one first argument. -/
structure Refusal where
  /-- The name of the method. -/
  method : String
  /-- The first argument. -/
  argument : Value

/-- Whether a message is the refused one. Arguments are compared by
value. -/
def Refusal.applies (r : Refusal) (m : Message) : Bool :=
  m.method.name == r.method && (m.args.head?.any fun v => v.equals r.argument)

/-- The messages that some refusal applies to. -/
def Refusals.ofList (rs : List Refusal) : Refusals :=
  fun m => rs.any fun r => r.applies m

/-- Nothing is refused. -/
def Refusals.none : Refusals := fun _ => false

namespace Builder

/-- The text of a request. -/
def requestText (generation : Nat) : String :=
  "<recorder " ++ toString generation ++ ">"

/-- The text of a builder: that of its request, inside the name of the
adapter if there is one. -/
def text (b : Builder) : String :=
  match b.dialect with
  | .plain => requestText b.generation
  | .adapted => "PostgrestBuilder(" ++ requestText b.generation ++ ")"

/-- The builder around the next request. -/
def next (b : Builder) : Builder := ⟨b.dialect, b.generation + 1⟩

/-- A request receives a message, or refuses it. -/
def deliver (refuses : Refusals) (b : Builder) (m : Message) : Run Builder :=
  if refuses m then Run.fail (.refused m.method.name)
  else ⟨[.sent b.generation m], [], .ok b.next⟩

/-- **A call on a builder.** -/
def call (refuses : Refusals) (b : Builder) (c : Call) : Run Builder :=
  b.deliver refuses (b.dialect.encode c)

end Builder

namespace Script

/-- Steps on a builder, each on the builder of the one before. -/
def runSteps (refuses : Refusals) (b : Builder) : List Step → Run Builder
  | [] => Run.ok b
  | .send c :: steps =>
    (b.call refuses c).andThen fun b => runSteps refuses b steps
  | .tell n :: steps =>
    (Run.tell n).andThen fun _ => runSteps refuses b steps

/-- **A script on a builder**: its steps, then its fault. -/
def run (refuses : Refusals) (b : Builder) (s : Script) : Run Builder :=
  (runSteps refuses b s.items).andThen fun b =>
    match s.fault with
    | none => Run.ok b
    | some f => Run.fail f

end Script

end DocFilter
