import DocFilter.Proofs.CutShort
import DocFilter.Proofs.Refusals

/-!
# Applying a translation

A filter, the condition on a field and a sort order are each translated to a
script, and each applied to a builder by a walk that hands the builder from
call to call (`Translation.apply`). Where all integers are written the walk
is the run of the script (`Translation.apply_eq_run`), and always so if the
limit on digits is lifted; whatever is said of the runs of scripts is said of
the walk. So a refusal ends it at the refused call and nowhere else
(`Translation.stops_at_first_refusal`), and it takes one generation for each
call (`Translation.threads_generations`).

Within a limit the walk is the run of a beginning of the script
(`Translation.exists_script`), so that both hold of it without the script,
whatever the limit (`Translation.apply_eq_upToRefusal`,
`Translation.generations_apply`).
-/

namespace DocFilter

/-- **What is translated by itself.** -/
inductive Translation where
  /-- A filter. -/
  | filter (document : Value)
  /-- The condition on a field. -/
  | field (column condition : Value)
  /-- A sort order. -/
  | order (document : Value)

namespace Translation

/-- What it is translated to. -/
def script : Translation → Script
  | filter v => Filter.script v
  | field column v => Filter.fieldScript column v
  | order v => SortOrder.script v

/-- **Applies a translation to a builder**, which is handed from call to
call. -/
def apply (limit : DigitLimit) (refuses : Refusals) (b : Builder) :
    Translation → Run Builder
  | filter v => b.applyFilter limit refuses v
  | field column v => b.applyField limit refuses column v
  | order v => b.applyOrder refuses v

/-- Whether all integers that may have to be written are. -/
def fits (limit : DigitLimit) : Translation → Bool
  | filter v | field _ v => v.fits limit
  | order _ => true

/-- Columns are ordered as the script of an order says. -/
theorem describes_columns (ms : List (Key × Value)) :
    Script.Describes
      (Trail.concat (ms.map fun m => Script.send
        (.order m.1.toValue (.bool (SortOrder.ascends m.2)))))
      fun refuses b => b.applyColumns refuses ms := by
  induction ms with
  | nil => exact .empty
  | cons m ms ih => exact (Script.Describes.send _).append ih

/-- **A translation is applied by running a script**: a beginning of the one
it is translated to, and all of it where its integers are written. -/
theorem exists_script (limit : DigitLimit) (t : Translation) :
    ∃ s : Script,
      (∀ refuses b, t.apply limit refuses b = s.run refuses b)
        ∧ s.items <+: t.script.items
        ∧ (t.fits limit = true → s = t.script) := by
  cases t with
  | filter v =>
    cases v with
    | atom a => exact ⟨_, fun _ _ => rfl, List.prefix_rfl, fun _ => rfl⟩
    | seq f vs => exact ⟨_, fun _ _ => rfl, List.prefix_rfl, fun _ => rfl⟩
    | doc ms =>
      obtain ⟨s, hs, hcut⟩ := Filter.follows_doc limit ms
      exact ⟨s, hs, hcut.items, fun h =>
        hcut.eq_whole_of_not_isLong (Filter.not_isLong_members h)⟩
  | field column v =>
    obtain ⟨s, hs, hcut⟩ := Filter.follows_field limit column v
    exact ⟨s, hs, hcut.items, fun h =>
      hcut.eq_whole_of_not_isLong (Obstacle.not_isLong_ofField h)⟩
  | order v =>
    cases v with
    | atom a => exact ⟨_, fun _ _ => rfl, List.prefix_rfl, fun _ => rfl⟩
    | seq f vs => exact ⟨_, fun _ _ => rfl, List.prefix_rfl, fun _ => rfl⟩
    | doc ms =>
      exact ⟨_, describes_columns ms, List.prefix_rfl, fun _ => rfl⟩

/-- **Where all integers are written**, a translation is applied by running
its script. -/
theorem apply_eq_run {limit : DigitLimit} {t : Translation}
    (h : t.fits limit = true) (refuses : Refusals) (b : Builder) :
    t.apply limit refuses b = t.script.run refuses b := by
  obtain ⟨s, hs, -, hwhole⟩ := t.exists_script limit
  rw [hs refuses b, hwhole h]

/-- Where the limit is lifted, every translation is applied by running its
script. -/
theorem apply_lifted (t : Translation) (refuses : Refusals) (b : Builder) :
    t.apply .lifted refuses b = t.script.run refuses b := by
  refine apply_eq_run ?_ refuses b
  cases t with
  | filter v => exact v.fits_lifted
  | field column v => exact v.fits_lifted
  | order v => rfl

/-- **A refusal ends the walk** at the refused call and nowhere else,
whatever the limit. -/
theorem apply_eq_upToRefusal (limit : DigitLimit) (t : Translation)
    (b : Builder) :
    ∃ events : List Event,
      t.apply limit Refusals.none b
          = Run.ofEvents events (t.apply limit Refusals.none b).result
        ∧ ∀ refuses, t.apply limit refuses b
          = Script.upToRefusal refuses events
              (t.apply limit Refusals.none b) := by
  obtain ⟨s, hs, -⟩ := t.exists_script limit
  refine ⟨s.events b, ?_, fun refuses => ?_⟩
  · rw [hs]
    exact s.run_none_eq_ofEvents b
  · rw [hs, hs]
    exact s.run_eq_upToRefusal refuses b

/-- **The walk takes one generation for each call**, from that of the builder
on, whatever the limit and whatever ends it; the builder that it gives is the
one that the last call gave. -/
theorem generations_apply (limit : DigitLimit) (t : Translation)
    (refuses : Refusals) (b : Builder) :
    let run := t.apply limit refuses b
    (run.entries.filterMap Entry.message?).map Prod.fst
        = List.range' b.generation run.entries.length
      ∧ ∀ b', run.result = .ok b' → b' = b.after run.entries.length := by
  obtain ⟨s, hs, -⟩ := t.exists_script limit
  rw [hs]
  obtain ⟨n, hn⟩ := s.exists_deliveries refuses b
  refine ⟨?_, fun b' hb' => (Script.entries_of_run_ok hb').2⟩
  rw [hn, b.generations_deliveries, b.length_deliveries]

/-- **A refusal ends a translation at the refused call and nowhere else.**
The run on a builder that refuses nothing is made up of the events of the
script. Under any refusals the run is

* this very run, if none of the messages in it is refused;
* otherwise what is sent and told in it before the first message that is
  refused, and the fault is the refusal of that message.

The walk that applies the translation to the builder is this run, where all
integers are written. -/
theorem stops_at_first_refusal (t : Translation) (refuses : Refusals)
    (b : Builder) :
    t.script.run Refusals.none b
        = Run.ofEvents (t.script.events b)
            (t.script.run Refusals.none b).result
      ∧ t.script.run refuses b
        = (match (t.script.events b).findSome? (Event.refusal? refuses) with
          | none => t.script.run Refusals.none b
          | some f =>
            Run.ofEvents
              ((t.script.events b).takeWhile (Event.passes refuses))
              (.error f))
      ∧ ∀ limit, t.fits limit = true →
        t.apply limit refuses b = t.script.run refuses b :=
  ⟨t.script.run_none_eq_ofEvents b, t.script.run_eq_upToRefusal refuses b,
    fun _ h => apply_eq_run h refuses b⟩

/-- A field, an `$or` with a test that is not written, and a field. -/
def mixed : Translation :=
  .filter (.doc
    [(.text "a", .int 1),
     (.text "$or", .list
       [.doc [(.text "x", .doc [(.text "$regex", .text "q")])],
        .doc [(.text "y", .int 2)]]),
     (.text "b", .doc [(.text "$size", .int 3)])])

/-- The `$or` is refused: the field before it has arrived and the note about
its test is left; the note about the field behind it is not. -/
theorem stops_at_first_refusal_of_or :
    let refuses := Refusals.ofList [⟨"or_", .text "y.eq.2"⟩]
    let run : Run Builder :=
      ⟨[.sent 4 ⟨.compare .eq, [.text "a", .int 1], []⟩],
       [.notWritten (.text "$regex") (.text "x")],
       .error (.refused "or_")⟩
    mixed.script.run refuses ⟨.plain, 4⟩ = run
      ∧ mixed.fits .usual = true
      ∧ mixed.apply .usual refuses ⟨.plain, 4⟩ = run := by
  intro refuses run
  have hfit : mixed.fits .usual = true := by decide +kernel
  obtain ⟨-, hcut, hwalk⟩ := stops_at_first_refusal mixed refuses ⟨.plain, 4⟩
  have hrun : mixed.script.run refuses ⟨.plain, 4⟩ = run := hcut.trans rfl
  exact ⟨hrun, hfit, (hwalk .usual hfit).trans hrun⟩

/-- **A translation threads its builder.** Under any refusals and whatever
ends the run, each message is received by a request of its own, of the
generations from that of the builder on, in order and without a gap; and the
messages are those of the first calls of the script.

A run that gives a builder has made every call, and the builder is around
the request that the last of them gave – the builder there was before only
if there is no call.

The walk that hands the builder from call to call is this run, where all
integers are written. -/
theorem threads_generations (t : Translation) (refuses : Refusals)
    (b : Builder) :
    let run := t.script.run refuses b
    (run.entries.filterMap Entry.message?).map Prod.fst
        = List.range' b.generation run.entries.length
      ∧ run.entries = b.deliveries (t.script.calls.take run.entries.length)
      ∧ (∀ b', run.result = .ok b' →
        run.entries = b.deliveries t.script.calls
          ∧ b' = ⟨b.dialect, b.generation + run.entries.length⟩
          ∧ (b' = b ↔ run.entries = []))
      ∧ ∀ limit, t.fits limit = true → t.apply limit refuses b = run := by
  intro run
  obtain ⟨n, hn⟩ := t.script.exists_deliveries refuses b
  change run.entries = b.deliveries (t.script.calls.take n) at hn
  have hlength : run.entries.length = (t.script.calls.take n).length := by
    rw [hn, Builder.length_deliveries]
  refine ⟨?_, ?_, fun b' hb' => ?_, fun _ h => apply_eq_run h refuses b⟩
  · rw [hlength, hn]
    exact b.generations_deliveries _
  · rw [hlength, List.length_take, ← List.take_eq_take_min]
    exact hn
  · have hrun : run = t.script.run Refusals.none b :=
      Script.run_eq_run_none hb'
    have hentries : run.entries = b.deliveries t.script.calls := by
      rw [hrun, Script.run_none]
    have hafter : b' = b.after run.entries.length := by
      rw [hentries, Builder.length_deliveries]
      exact Script.eq_after_of_run_none (hrun ▸ hb')
    refine ⟨hentries, hafter, ?_⟩
    rw [hafter, Builder.after_eq_self_iff, List.length_eq_zero_iff]

/-- A nested `$and` with a stray element, and a field of whose tests one is
left out. -/
def sparse : Translation :=
  .filter (.doc
    [(.text "$and", .list [.doc [(.text "p", .int 1)], .int 3]),
     (.text "q", .doc [(.text "$size", .int 2), (.text "$gt", .int 0)])])

/-- Two calls on an adapted builder of generation four: what is left out
takes no generation. -/
theorem threads_generations_past_omissions :
    let run := sparse.apply .usual Refusals.none ⟨.adapted, 4⟩
    sparse.fits .usual = true
      ∧ run = sparse.script.run Refusals.none ⟨.adapted, 4⟩
      ∧ (run.entries.filterMap Entry.message?).map Prod.fst = [4, 5]
      ∧ run.result = .ok ⟨.adapted, 6⟩
      ∧ run.entries
        = [.sent 4 ⟨.compare .eq, [.text "p", .int 1], []⟩,
           .sent 5 ⟨.compare .gt, [.text "q", .int 0], []⟩]
      ∧ (⟨.adapted, 6⟩ : Builder) = ⟨.adapted, 4 + run.entries.length⟩ := by
  intro run
  have hfit : sparse.fits .usual = true := by decide +kernel
  obtain ⟨hgenerations, -, hend, hwalk⟩ :=
    threads_generations sparse Refusals.none ⟨.adapted, 4⟩
  have hrun : run = sparse.script.run Refusals.none ⟨.adapted, 4⟩ :=
    hwalk .usual hfit
  have hresult : (sparse.script.run Refusals.none ⟨.adapted, 4⟩).result
      = .ok ⟨.adapted, 6⟩ := rfl
  obtain ⟨hentries, hbuilder, -⟩ := hend _ hresult
  rw [hrun]
  exact ⟨hfit, rfl, hgenerations, hresult, hentries, hbuilder⟩

end Translation

end DocFilter
