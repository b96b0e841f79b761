import DocFilter.Filter.Applied

/-!
# Walks that hand a builder on

A walk of a document can hand a builder from call to call, and a script can
be run on one. The two are the same where the script **describes** the walk
(`Script.Describes`): on every builder and under any refusals, the walk is
the run of the script.

Nothing in a script depends on a builder, so scripts are described piece by
piece. One script after another is run by handing on the builder that the
first one gives (`Script.run_append`); hence walks one after another are
described by scripts one after another (`Script.Describes.append`). A walk
that first makes a text – without sending anything, but maybe with notes, and
maybe with a fault – is described by the script that leaves these notes and
then goes on or stops (`Script.ofRun`).
-/

namespace DocFilter

namespace Script

/-! ## Scripts one after another -/

/-- Steps one after another are done on one builder after another. -/
theorem runSteps_append (refuses : Refusals) (b : Builder)
    (xs ys : List Step) :
    runSteps refuses b (xs ++ ys)
      = (runSteps refuses b xs).andThen
          fun b => runSteps refuses b ys := by
  induction xs generalizing b with
  | nil => rfl
  | cons x xs ih =>
    cases x with
    | send c =>
      rw [List.cons_append, runSteps, runSteps, Run.andThen_assoc]
      exact congrArg (Run.andThen (b.call refuses c)) (funext ih)
    | tell n =>
      rw [List.cons_append, runSteps, runSteps, Run.andThen_assoc, ih b]

/-- **A script after another** runs on the builder that the other gives. -/
theorem run_append (refuses : Refusals) (b : Builder) (s t : Script) :
    (s ++ t).run refuses b
      = (s.run refuses b).andThen fun b => t.run refuses b := by
  obtain ⟨xs, _ | f⟩ := s
  · show (runSteps refuses b (xs ++ t.items)).andThen _ = _
    rw [runSteps_append]
    unfold run
    rw [Run.andThen_assoc, Run.andThen_assoc]
    rfl
  · -- The first script ends in a fault, and so does the whole.
    show run refuses b ⟨xs, some f⟩ = _
    unfold run
    rw [Run.andThen_assoc]
    rfl

/-- The script of some notes leaves them. -/
theorem run_tellAll (refuses : Refusals) (b : Builder) (ns : List Note) :
    (tellAll ns).run refuses b = ⟨[], ns, .ok b⟩ := by
  have hsteps : runSteps refuses b (ns.map .tell) = ⟨[], ns, .ok b⟩ := by
    induction ns with
    | nil => rfl
    | cons n ns ih =>
      rw [List.map_cons, runSteps, ih]
      rfl
  show (runSteps refuses b (ns.map .tell)).andThen Run.ok = _
  rw [hsteps, Run.andThen_ok]

/-! ## Describing a walk -/

/-- **A script describes a walk** that hands a builder on, if the walk is
the run of the script on every builder and under any refusals. -/
def Describes (s : Script)
    (walk : Refusals → Builder → Run Builder) : Prop :=
  ∀ refuses b, walk refuses b = s.run refuses b

/-- **The script of a run that sends nothing**, and of what comes after
it. -/
def ofRun {α : Type} (r : Run α) (next : α → Script) : Script :=
  tellAll r.notes
    ++ match r.result with
      | .ok a => next a
      | .error f => Trail.stop f

namespace Describes

variable {s t : Script} {walk walk' : Refusals → Builder → Run Builder}

/-- Nothing describes the walk that keeps the builder. -/
theorem empty : Describes Trail.empty fun _ b => Run.ok b := fun _ _ => rfl

/-- A call. -/
theorem send (c : Call) :
    (Script.send c).Describes fun refuses b => b.call refuses c := by
  intro refuses b
  show _ = ((b.call refuses c).andThen Run.ok).andThen Run.ok
  rw [Run.andThen_ok, Run.andThen_ok]

/-- A note. -/
theorem told (n : Note) : (tell n).Describes fun _ b => b.told n :=
  fun _ _ => rfl

/-- A fault. -/
theorem stop (f : Fault) :
    Describes (Trail.stop f) fun _ _ => Run.fail f := fun _ _ => rfl

/-- **One walk after another.** -/
theorem append (hs : s.Describes walk) (ht : t.Describes walk') :
    (s ++ t).Describes fun refuses b =>
      (walk refuses b).andThen fun b => walk' refuses b := by
  intro refuses b
  dsimp only
  rw [run_append, hs refuses b]
  exact congrArg (Run.andThen _) (funext (ht refuses))

/-- **A walk that first makes something**, without sending anything. -/
theorem ofRun {α : Type} {r : Run α} {next : α → Script}
    {walk : α → Refusals → Builder → Run Builder} (hr : r.entries = [])
    (h : ∀ a, (next a).Describes (walk a)) :
    (Script.ofRun r next).Describes fun refuses b =>
      r.andThen fun a => walk a refuses b := by
  intro refuses b
  obtain ⟨es, ns, result⟩ := r
  obtain rfl : es = [] := hr
  rw [Script.ofRun, run_append, run_tellAll]
  cases result with
  | error f => exact congrArg (Run.mk [] · _) (List.append_nil ns).symm
  | ok a => exact congrArg (fun r : Run Builder =>
      Run.mk ([] ++ r.entries) (ns ++ r.notes) r.result) (h a refuses b)

end Describes

end Script

end DocFilter
