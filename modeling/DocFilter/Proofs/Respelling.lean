import Mathlib.Data.List.Forall2
import DocFilter.Proofs.Outcomes
import DocFilter.Proofs.Translation

/-!
# How an adapter respells a run

Over an adapter the same messages reach the same requests as over a bare
handle, but some of them in another spelling. `Message.Respelled` lists the
spellings one by one: a test for nothing by its text, a negation as a
filter, an order by whether it descends, and everything else as it is. Two
runs are respellings of each other (`Run.Respelled`) when their entries are,
one by one and on the same generations, when they leave the same notes, and
when they end alike – in the same fault, or in results that correspond.

A call **respells well** if its two spellings are in the list. Not every
call of the builder contract does: the adapter turns *any* operand of a
negation into text. But the calls of a filter do
(`Filter.respells_of_mem_calls`), since what they negate is nothing or a
text already. Scripts of such calls run alike on a builder and on an adapter
around the same request (`Script.run_respelled`).
-/

namespace DocFilter

/-- Whether an adapter passes the messages of a method on as they are. -/
def Method.isForwarded : Method → Bool
  | is | not | order | filter => false
  | compare _ | isIn | ilike | or | limit | range | select => true

/-- **A message, and how an adapter spells it.** -/
inductive Message.Respelled : Message → Message → Prop where
  /-- Nothing is tested for by its text. -/
  | isNull (column : Value) :
    Respelled ⟨.is, [column, .null], []⟩ ⟨.is, [column, .text "null"], []⟩
  /-- A negated test for nothing is a filter with the text of nothing. -/
  | notNull (column : Value) (operator : String) :
    Respelled ⟨.not, [column, .text operator, .null], []⟩
      ⟨.filter, [column, .text ("not." ++ operator), .text "null"], []⟩
  /-- A negated test with a text is a filter with that text. -/
  | notText (column : Value) (operator operand : String) :
    Respelled ⟨.not, [column, .text operator, .text operand], []⟩
      ⟨.filter, [column, .text ("not." ++ operator), .text operand], []⟩
  /-- An order says whether it descends, not whether it ascends. -/
  | order (column : Value) (ascending : Bool) :
    Respelled ⟨.order, [column], [("ascending", .bool ascending)]⟩
      ⟨.order, [column], [("desc", .bool !ascending)]⟩
  /-- Any other message is passed on as it is. -/
  | forwarded (m : Message) (h : m.method.isForwarded = true) :
    Respelled m m

/-- **An entry, and its respelling**: the same resource by the same
accessor, or a respelled message to a request of the same generation. -/
inductive Entry.Respelled : Entry → Entry → Prop where
  | opened (accessor : Accessor) (resource : Value) :
    Respelled (.opened accessor resource) (.opened accessor resource)
  | sent (generation : Nat) {m n : Message} (h : m.Respelled n) :
    Respelled (.sent generation m) (.sent generation n)

/-- **A builder as it is, and an adapter around the same request.** -/
structure Builder.Wrapped (b w : Builder) : Prop where
  plain : b.dialect = .plain
  adapted : w.dialect = .adapted
  generation : w.generation = b.generation

section Relation

variable {α β γ δ : Type} {R : α → β → Prop} {S : γ → δ → Prop}

/-- **Two ends that are alike**: results that correspond, or the same
fault. -/
inductive SameEnd (R : α → β → Prop) :
    Except Fault α → Except Fault β → Prop where
  | ok {a : α} {b : β} (h : R a b) : SameEnd R (.ok a) (.ok b)
  | error (f : Fault) : SameEnd R (.error f) (.error f)

/-- **A run, and its respelling.** -/
structure Run.Respelled (R : α → β → Prop) (r : Run α) (s : Run β) :
    Prop where
  entries : List.Forall₂ Entry.Respelled r.entries s.entries
  notes : s.notes = r.notes
  result : SameEnd R r.result s.result

namespace Run.Respelled

theorem ok {a : α} {b : β} (h : R a b) : (Run.ok a).Respelled R (Run.ok b) :=
  ⟨.nil, rfl, .ok h⟩

theorem ofExcept (r : Except Fault α) :
    (Run.ofExcept r).Respelled Eq (Run.ofExcept r) := by
  refine ⟨.nil, rfl, ?_⟩
  cases r with
  | ok a => exact .ok rfl
  | error f => exact .error f

theorem tell (n : Note) : (Run.tell n).Respelled Eq (Run.tell n) :=
  ⟨.nil, rfl, .ok rfl⟩

/-- **Runs that go on alike are respelled as a whole.** -/
theorem andThen {r : Run α} {s : Run β} {f : α → Run γ} {g : β → Run δ}
    (h : r.Respelled R s) (hnext : ∀ a b, R a b → (f a).Respelled S (g b)) :
    (r.andThen f).Respelled S (s.andThen g) := by
  obtain ⟨es, ns, x⟩ := r
  obtain ⟨fs, ms, y⟩ := s
  obtain ⟨hentries, hnotes, hresult⟩ := h
  cases hresult with
  | ok hab =>
    have hfg := hnext _ _ hab
    refine ⟨List.rel_append hentries hfg.entries, ?_, hfg.result⟩
    exact congr (congrArg HAppend.hAppend hnotes) hfg.notes
  | error e =>
    -- After a fault neither run goes on.
    exact ⟨hentries, hnotes, .error e⟩

end Run.Respelled

end Relation

/-! ## Calls and scripts -/

/-- **The adapter spells a call in one of the ways of the list.** -/
def Call.Respells (c : Call) : Prop := c.plain.Respelled c.adapted

namespace Filter

/-- What a field asks for respells well: what it negates is nothing or a
text. -/
theorem FieldCall.respells {column : Value} {c : Call}
    (h : FieldCall column c) : c.Respells := by
  cases h with
  | compare op operand => exact .forwarded _ rfl
  | isNull => exact .isNull column
  | notNull => exact .notNull column "is"
  | isIn vs => exact .forwarded _ rfl
  | notIn list => exact .notText column "in" list
  | ilike pattern => exact .forwarded _ rfl

/-- **The calls of a filter respell well.** -/
theorem respells_of_mem_calls {v : Value} {c : Call}
    (hc : c ∈ (script v).calls) : c.Respells := by
  rw [calls_script] at hc
  obtain ⟨p, -, hpc⟩ := List.mem_filterMap.mp hc
  cases p with
  | alone s =>
    change s.outcome.call? = some c at hpc
    obtain ⟨column, -, hfield⟩ :=
      Site.fieldCall_of_outcome (Outcome.eq_called_of_call? hpc)
    exact hfield.respells
  | joined path cs =>
    obtain rfl := Option.some.inj hpc
    exact .forwarded _ rfl

end Filter

namespace Builder

variable {b w : Builder}

/-- The next requests correspond too. -/
theorem Wrapped.next (h : b.Wrapped w) : b.next.Wrapped w.next :=
  ⟨h.plain, h.adapted, congrArg (· + 1) h.generation⟩

theorem Wrapped.after (h : b.Wrapped w) (n : Nat) :
    (b.after n).Wrapped (w.after n) :=
  ⟨h.plain, h.adapted, congrArg (· + n) h.generation⟩

/-- **Calls that respell well arrive respelled**, each on the same
generation. -/
theorem Wrapped.deliveries (h : b.Wrapped w) {cs : List Call}
    (hcs : ∀ c ∈ cs, c.Respells) :
    List.Forall₂ Entry.Respelled (b.deliveries cs) (w.deliveries cs) := by
  induction cs generalizing b w with
  | nil => exact .nil
  | cons c cs ih =>
    refine .cons ?_ (ih h.next fun d hd => hcs d (List.mem_cons_of_mem c hd))
    rw [h.plain, h.adapted, h.generation]
    exact .sent b.generation (hcs c (List.mem_cons_self ..))

/-- One call that respells well. -/
theorem Wrapped.call (h : b.Wrapped w) {c : Call} (hc : c.Respells) :
    (b.call Refusals.none c).Respelled Wrapped
      (w.call Refusals.none c) := by
  have hentries : List.Forall₂ Entry.Respelled (b.deliveries [c])
      (w.deliveries [c]) :=
    h.deliveries (List.forall_mem_singleton.mpr hc)
  rw [call_none, call_none]
  exact ⟨hentries, rfl, .ok h.next⟩

end Builder

/-- **A script of calls that respell well** runs on an adapter as on the
bare builder, respelled. -/
theorem Script.run_respelled {b w : Builder} (h : b.Wrapped w) {s : Script}
    (hs : ∀ c ∈ s.calls, c.Respells) :
    (s.run Refusals.none b).Respelled Builder.Wrapped
      (s.run Refusals.none w) := by
  rw [run_none, run_none]
  refine ⟨h.deliveries hs, rfl, ?_⟩
  cases s.fault with
  | none => exact .ok (h.after s.calls.length)
  | some f => exact .error f

end DocFilter
