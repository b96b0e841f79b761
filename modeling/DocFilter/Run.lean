import DocFilter.Call
import DocFilter.Fault
import DocFilter.Note

/-!
# Runs

What happens when something is done to a backend or a builder: the entries
that reach it, the notes left on the way, and the result or the fault.
Entries and notes stay when a fault ends the run.
-/

namespace DocFilter

/-- The two members by which a handle gives a builder. -/
inductive Accessor where
  | source
  | table
  deriving DecidableEq

/-- The name of an accessor. -/
def Accessor.name : Accessor → String
  | source => "from_"
  | table => "table"

/-- **What reaches a backend or a request.** -/
inductive Entry where
  /-- A request, known by its generation, receives a message. -/
  | sent (generation : Nat) (message : Message)
  /-- A handle is asked for a resource. -/
  | opened (accessor : Accessor) (resource : Value)
  /-- A client is created. -/
  | connected (url schema : Value) (headers : List (String × Value))
  deriving DecidableEq

/-- The message of an entry, with the generation that receives it. -/
def Entry.message? : Entry → Option (Nat × Message)
  | sent g m => some (g, m)
  | _ => none

/-- **What happened, and what came of it.** -/
structure Run (α : Type) where
  /-- What reached a backend or a request, in order. -/
  entries : List Entry
  /-- What was told on the way, in order. -/
  notes : List Note
  /-- What came of it. -/
  result : Except Fault α

namespace Run

variable {α β : Type}

/-- Nothing happens. -/
def ok (a : α) : Run α := ⟨[], [], .ok a⟩

/-- A fault, before anything happens. -/
def fail (f : Fault) : Run α := ⟨[], [], .error f⟩

/-- A result or a fault, without anything happening. -/
def ofExcept (r : Except Fault α) : Run α := ⟨[], [], r⟩

/-- One note. -/
def tell (n : Note) : Run Unit := ⟨[], [n], .ok ()⟩

/-- **One run after another**, which is not begun after a fault. -/
def andThen (r : Run α) (next : α → Run β) : Run β :=
  match r.result with
  | .ok a =>
    ⟨r.entries ++ (next a).entries, r.notes ++ (next a).notes,
      (next a).result⟩
  | .error f => ⟨r.entries, r.notes, .error f⟩

/-- The same for each of a list, one after another. -/
def each (f : α → Run β) : List α → Run (List β)
  | [] => ok []
  | a :: as =>
    (f a).andThen fun b => (each f as).andThen fun bs => ok (b :: bs)

instance : Monad Run where
  pure := ok
  bind := andThen

theorem pure_eq (a : α) : (pure a : Run α) = ok a := rfl

theorem bind_eq (r : Run α) (next : α → Run β) :
    r >>= next = r.andThen next := rfl

@[simp] theorem ok_andThen (a : α) (next : α → Run β) :
    (ok a).andThen next = next a := rfl

@[simp] theorem fail_andThen (f : Fault) (next : α → Run β) :
    (fail f : Run α).andThen next = fail f := rfl

@[simp] theorem andThen_ok (r : Run α) : r.andThen ok = r := by
  rcases r with ⟨es, ns, f | a⟩ <;> simp [andThen, ok]

@[simp] theorem andThen_assoc {γ : Type} (r : Run α) (f : α → Run β)
    (g : β → Run γ) :
    (r.andThen f).andThen g = r.andThen fun a => (f a).andThen g := by
  rcases r with ⟨es, ns, e | a⟩
  · rfl
  · rcases h : f a with ⟨fs, ms, e | b⟩ <;> simp [andThen, h]

end Run

end DocFilter
