import DocFilter.Disjunction.Written
import DocFilter.Proofs.CompositeText

/-!
# What can be written of an `$or`

A test of an `$or` is written if the integers of its column and of its
operand are; a test without a written form is only told. So whether a whole
`$or` is written can be read off its tests, and `Disjunction.fits` does so:
an integer that is in no written test – the operand of a tag that means
nothing, an element that is no document – is in no way.

Writing runs test by test and stops at the first that does not fit. Every
part of it is of one kind (`Run.Writes`): nothing reaches a request, and
there is one outcome where all of the part fits, one fault where something in
it does not. Parts of this kind make wholes of this kind, one after another
(`Run.Writes.andThen`) or as a list (`Run.Writes.each`); so the text and the
notes of `Disjunction` are what writing gives exactly where all of the `$or`
fits (`Disjunction.writes_all`).
-/

namespace DocFilter

/-! ## Runs that write -/

/-- **A run that writes within a limit.** Nothing reaches a request. Where
what is written fits, the notes are left and the outcome is given; where it
does not, some of the notes are left and the run ends in the fault of the
limit. -/
structure Run.Writes {α : Type} (limit : DigitLimit) (fits : Bool)
    (notes : List Note) (outcome : α) (r : Run α) : Prop where
  entries : r.entries = []
  notes_prefix : r.notes <+: notes
  of_fit : fits = true → r = ⟨[], notes, .ok outcome⟩
  of_not_fit : fits = false → r.result = .error limit.fault

namespace Run.Writes

variable {α β : Type} {limit : DigitLimit}

/-- What a run that writes gives. -/
theorem result_eq {fits : Bool} {ns : List Note} {a : α} {r : Run α}
    (h : Writes limit fits ns a r) :
    r.result = if fits then .ok a else .error limit.fault := by
  cases hfits : fits with
  | true =>
    rw [h.of_fit hfits]
    rfl
  | false => exact h.of_not_fit hfits

/-- An outcome without writing. -/
theorem ok (a : α) : Writes limit true [] a (Run.ok a) :=
  ⟨rfl, List.prefix_rfl, fun _ => rfl,
    fun h => absurd h.symm Bool.false_ne_true⟩

/-- A note without writing. -/
theorem tell (n : Note) : Writes limit true [n] () (Run.tell n) :=
  ⟨rfl, List.prefix_rfl, fun _ => rfl,
    fun h => absurd h.symm Bool.false_ne_true⟩

/-- A text made of some values. -/
theorem guard (vs : List Value) (a : α) :
    Writes limit (Value.allFit limit vs) [] a
      (Run.ofExcept (limit.guard vs (.ok a))) where
  entries := rfl
  notes_prefix := List.prefix_rfl
  of_fit h := by rw [DigitLimit.guard_of_fit h]; rfl
  of_not_fit h := by rw [DigitLimit.guard_of_not_fit h]; rfl

/-- **One after another**: both have to fit. -/
theorem andThen {p q : Bool} {ns ms : List Note} {a : α} {b : β} {r : Run α}
    {next : α → Run β} (hr : Writes limit p ns a r)
    (hnext : Writes limit q ms b (next a)) :
    Writes limit (p && q) (ns ++ ms) b (r.andThen next) := by
  cases hp : p with
  | false =>
    -- The first of the two ends the run.
    have hfault : r.andThen next
        = ⟨r.entries, r.notes, .error limit.fault⟩ := by
      rw [Run.andThen, hr.of_not_fit hp]
    rw [hfault]
    exact ⟨hr.entries, hr.notes_prefix.trans (List.prefix_append ns ms),
      fun h => absurd h Bool.false_ne_true, fun _ => rfl⟩
  | true =>
    have hrun : r.andThen next
        = ⟨(next a).entries, ns ++ (next a).notes, (next a).result⟩ := by
      rw [hr.of_fit hp]
      rfl
    rw [hrun]
    exact ⟨hnext.entries, (List.prefix_append_right_inj ns).mpr
      hnext.notes_prefix, fun hq => by rw [hnext.of_fit hq],
      hnext.of_not_fit⟩

/-- What is made of an outcome, without writing more. -/
theorem map {fits : Bool} {ns : List Note} {a : α} {r : Run α}
    (h : Writes limit fits ns a r) (g : α → β) :
    Writes limit fits ns (g a) (r.andThen fun a => Run.ok (g a)) := by
  have hmap : Writes limit (fits && true) (ns ++ []) (g a)
      (r.andThen fun a => Run.ok (g a)) := h.andThen (ok (g a))
  rwa [Bool.and_true, List.append_nil] at hmap

/-- **The same for each of a list**: all of them have to fit. -/
theorem each {p : α → Bool} {ns : α → List Note} {out : α → β}
    {f : α → Run β} (h : ∀ a, Writes limit (p a) (ns a) (out a) (f a))
    (as : List α) :
    Writes limit (as.all p) (as.flatMap ns) (as.map out) (Run.each f as) := by
  induction as with
  | nil => exact ok []
  | cons a as ih => exact (h a).andThen (ih.map (out a :: ·))

end Run.Writes

namespace Disjunction

variable (limit : DigitLimit)

/-! ## What fits -/

/-- Whether what is written of a test is within the limit. -/
def testFits (column : Value) (tag : Key) (operand : Value) : Bool :=
  match write column tag operand with
  | .ok _ => Value.allFit limit [column, operand]
  | .error _ => true

/-- Whether what is written of a field is within the limit. -/
def fieldFits (column v : Value) : Bool :=
  match v.condition with
  | .plain v => Value.allFit limit [column, v]
  | .operators tests => tests.all fun (tag, operand) =>
    testFits limit column tag operand

/-- Whether what is written of a clause is within the limit. -/
def clauseFits (ms : List (Key × Value)) : Bool :=
  ms.all fun (k, v) => fieldFits limit k.toValue v

/-- Whether what is written of an element is within the limit. -/
def elementFits : Value → Bool
  | .doc ms => clauseFits limit ms
  | _ => true

/-- **Whether all that is written of an `$or` is within the limit.** -/
def fits (clauses : List Value) : Bool := clauses.all (elementFits limit)

/-! ## What is written -/

/-- The notes of some parts, one after another. -/
theorem notesOf_flatMap {α : Type} (as : List α)
    (g : α → List (Except Note Fragment)) :
    notesOf (as.flatMap g) = as.flatMap fun a => notesOf (g a) :=
  List.filterMap_flatMap

/-- **A test is written** if it fits. -/
theorem writes_test (column : Value) (tag : Key) (operand : Value) :
    Run.Writes limit (testFits limit column tag operand)
      (notesOf [write column tag operand])
      ((write column tag operand).toOption.map Fragment.text)
      (writeTest limit column tag operand) := by
  unfold testFits writeTest
  cases write column tag operand with
  | ok fragment => exact .guard [column, operand] (some fragment.text)
  | error n => exact (Run.Writes.tell n).map fun _ => none

/-- The texts of tests are those of their fragments. -/
theorem filterMap_texts (column : Value) (tests : List (Key × Value)) :
    (tests.map fun t =>
        (write column t.1 t.2).toOption.map Fragment.text).filterMap id
      = (fragmentsOf (tests.map fun t => write column t.1 t.2)).map
          Fragment.text := by
  rw [fragmentsOf, List.filterMap_map, List.filterMap_map,
    List.map_filterMap]
  congr 1
  funext t
  dsimp only [Function.comp_apply, id_eq]
  cases write column t.1 t.2 <;> rfl

/-- **A field is written** if all of its tests are. -/
theorem writes_field (column v : Value) :
    Run.Writes limit (fieldFits limit column v)
      (notesOf (fieldOutcomes column v)) (fieldText column v)
      (writeField limit column v) := by
  unfold fieldFits fieldText writeField fieldOutcomes
  cases v.condition with
  | plain v =>
    have htext : joinNonempty [(plain column v).text]
        = (plain column v).text := by
      rw [joinNonempty_cons]
      exact withComma_empty _
    exact htext ▸ Run.Writes.guard [column, v] (plain column v).text
  | operators tests =>
    have htests := (Run.Writes.each
      (fun t : Key × Value => writes_test limit column t.1 t.2) tests).map
        fun fragments => joinNonempty (fragments.filterMap id)
    rw [← notesOf_flatMap, ← List.map_eq_flatMap, filterMap_texts] at htests
    exact htests

/-- **A clause is written** if all of its fields are. -/
theorem writes_clause (ms : List (Key × Value)) :
    Run.Writes limit (clauseFits limit ms) (notesOf (clauseOutcomes ms))
      (clauseText ms) (writeClause limit ms) := by
  have hfields := (Run.Writes.each
    (fun m : Key × Value => writes_field limit m.1.toValue m.2) ms).map
      joinNonempty
  rw [← notesOf_flatMap] at hfields
  exact hfields

/-- **An element is written** if it is a clause that is, or none at all. -/
theorem writes_element (c : Value) :
    Run.Writes limit (elementFits limit c) (notesOf (elementOutcomes c))
      (elementText c) (writeElement limit c) := by
  cases c with
  | doc ms => exact writes_clause limit ms
  | atom a => exact (Run.Writes.tell (.strayOrClause (.atom a))).map fun _ => ""
  | seq f vs =>
    exact (Run.Writes.tell (.strayOrClause (.seq f vs))).map fun _ => ""

/-- **An `$or` is written** exactly if all of it fits, and then its text is
`Disjunction.text` and what is told is `Disjunction.notes`. -/
theorem writes_all (clauses : List Value) :
    Run.Writes limit (fits limit clauses) (notes clauses) (text clauses)
      (writeAll limit clauses) := by
  have helements := (Run.Writes.each (writes_element limit) clauses).map
    joinNonempty
  rw [← notesOf_flatMap] at helements
  exact helements

/-! ## Values that fit -/

variable {limit}

/-- A column and an operand fit if their key and the operand do. -/
theorem allFit_pair {k : Key} {v : Value} (hk : k.fits limit = true)
    (hv : v.fits limit = true) :
    Value.allFit limit [k.toValue, v] = true := by
  rw [Value.allFit, Value.allFit, Value.allFit, Key.fits_toValue, hk, hv]
  rfl

/-- A test is written if its column and its operand fit. -/
theorem testFits_of_allFit {column operand : Value}
    (h : Value.allFit limit [column, operand] = true) (tag : Key) :
    testFits limit column tag operand = true := by
  unfold testFits
  split
  · exact h
  · rfl

/-- A field is written if its key and its value fit. -/
theorem fieldFits_of_fits {k : Key} {v : Value} (hk : k.fits limit = true)
    (hv : v.fits limit = true) : fieldFits limit k.toValue v = true := by
  unfold fieldFits
  cases h : v.condition with
  | plain w =>
    obtain rfl := Value.eq_of_condition_plain h
    exact allFit_pair hk hv
  | operators tests =>
    obtain rfl := Value.eq_of_condition_operators h
    refine List.all_eq_true.mpr fun t ht => ?_
    have hoperand := (Value.fits_of_member hv ht).2
    exact testFits_of_allFit (allFit_pair hk hoperand) t.1

/-- **An `$or` is written if all of its clauses fit.** -/
theorem fits_of_allFit {clauses : List Value}
    (h : Value.allFit limit clauses = true) :
    fits limit clauses = true := by
  refine List.all_eq_true.mpr fun c hc => ?_
  cases c with
  | atom a => rfl
  | seq f vs => rfl
  | doc ms =>
    refine List.all_eq_true.mpr fun m hm => ?_
    obtain ⟨hkey, hvalue⟩ := Value.fits_of_member (Value.fits_of_mem h hc) hm
    exact fieldFits_of_fits hkey hvalue

end Disjunction

end DocFilter
