import DocFilter.Proofs.CompositeText

/-!
# The conditions of an `$or`

What an `$or` says is one list of conditions: clause by clause, field by
field and test by test, the fragment of every plain value and of every test
that has a written form (`Disjunction.conditions`). An element that is no
document says nothing, and a test without a written form says nothing
either.

The text of an `$or` is these fragments with commas between them, whatever
stands around them (`Disjunction.text_flat`). No fragment is empty, so the
text is empty only if there is no condition; a clause without a condition
can be taken out, or put in, without a trace; and the text of one list of
clauses after another has one comma more than the two, unless one of them is
empty.
-/

namespace DocFilter

namespace Disjunction

/-- The conditions on a field: its plain value, or those of its tests that
have a written form. -/
def fieldConditions (column v : Value) : List Fragment :=
  match v.condition with
  | .plain w => [plain column w]
  | .operators ts => ts.filterMap fun (tag, operand) =>
    (write column tag operand).toOption

/-- **The conditions of an `$or`**, in order. -/
def conditions : List Value → List Fragment
  | [] => []
  | .doc ms :: cs =>
    (ms.flatMap fun (k, v) => fieldConditions k.toValue v) ++ conditions cs
  | _ :: cs => conditions cs

/-- The conditions of a list of clauses and of another. -/
theorem conditions_append (cs ds : List Value) :
    conditions (cs ++ ds) = conditions cs ++ conditions ds := by
  induction cs with
  | nil => rfl
  | cons c cs ih =>
    cases c with
    | doc ms =>
      rw [List.cons_append, conditions, ih, conditions, List.append_assoc]
    | atom a => exact ih
    | seq f vs => exact ih

/-- The fragments among some outcomes are what the outcomes give. -/
theorem fragmentsOf_eq (os : List (Except Note Fragment)) :
    fragmentsOf os = os.filterMap Except.toOption :=
  congrArg (List.filterMap · os) (funext fun o => by cases o <;> rfl)

/-- The fragments of a field are its conditions. -/
theorem fragmentsOf_fieldOutcomes (column v : Value) :
    fragmentsOf (fieldOutcomes column v) = fieldConditions column v := by
  unfold fieldOutcomes fieldConditions
  cases v.condition with
  | plain w => rfl
  | operators ts =>
    dsimp only
    rw [fragmentsOf_eq, List.filterMap_map]
    rfl

/-- **The fragments of an `$or` are its conditions.** -/
theorem fragments_eq_conditions (cs : List Value) :
    fragments cs = conditions cs := by
  unfold fragments outcomes
  rw [fragmentsOf_flatMap]
  induction cs with
  | nil => rfl
  | cons c cs ih =>
    rw [List.flatMap_cons, ih]
    cases c with
    | doc ms =>
      show fragmentsOf (clauseOutcomes ms) ++ _ = _
      rw [clauseOutcomes, fragmentsOf_flatMap, conditions]
      refine congrArg (· ++ _) (congrArg (List.flatMap · ms) (funext ?_))
      exact fun m => fragmentsOf_fieldOutcomes m.1.toValue m.2
    | atom a => rfl
    | seq f vs => rfl

/-- The text of an `$or` joins what is not empty anyway. -/
theorem text_eq_joinNonempty (cs : List Value) :
    text cs = joinNonempty ((conditions cs).map Fragment.text) := by
  rw [text_eq_intercalate, fragments_eq_conditions]
  refine (joinNonempty_of_ne_empty fun x hx => ?_).symm
  obtain ⟨f, -, rfl⟩ := List.mem_map.mp hx
  exact f.text_ne_empty

/-- **The text of an `$or` is empty** if there is no condition in it. -/
theorem text_eq_empty_iff (cs : List Value) :
    text cs = "" ↔ conditions cs = [] := by
  rw [text_eq_joinNonempty, joinNonempty_eq_empty_iff,
    List.filter_eq_nil_iff, List.forall_mem_map]
  constructor
  · intro h
    refine List.eq_nil_iff_forall_not_mem.mpr fun f hf => h f hf ?_
    simpa using f.text_ne_empty
  · intro h f hf
    rw [h] at hf
    exact absurd hf List.not_mem_nil

/-- **The text of one list of clauses after another.** -/
theorem text_append (xs ys : List Value) :
    text (xs ++ ys) = withComma (text xs) (text ys) := by
  rw [text_eq_joinNonempty, conditions_append, List.map_append,
    joinNonempty_append, ← text_eq_joinNonempty, ← text_eq_joinNonempty]

/-- **An `$or` is written flat.** For every list of clauses,

* the text is the fragments of its conditions with commas between them, and
  none of these is empty, so that no comma stands alone;
* the text is empty exactly if there is no condition;
* a clause without a condition leaves no trace at any position;
* two lists one after the other are written with a comma in between if both
  texts have something in them, and else as the one that has. -/
theorem text_flat (cs : List Value) :
    text cs = ",".intercalate ((conditions cs).map Fragment.text)
      ∧ (∀ f ∈ conditions cs, f.text ≠ "")
      ∧ (text cs = "" ↔ conditions cs = [])
      ∧ (∀ c ds, conditions [c] = [] → text (cs ++ c :: ds) = text (cs ++ ds))
      ∧ ∀ ds, text (cs ++ ds)
        = if text cs = "" then text ds
          else if text ds = "" then text cs
          else text cs ++ "," ++ text ds := by
  refine ⟨?_, fun f _ => f.text_ne_empty, text_eq_empty_iff cs,
    fun c ds hc => ?_, text_append cs⟩
  · rw [text_eq_intercalate, fragments_eq_conditions]
  · -- The clause is a list of its own, and that has no text.
    have hempty : text [c] = "" := (text_eq_empty_iff [c]).mpr hc
    rw [text_append, ← List.singleton_append, text_append [c] ds, hempty,
      empty_withComma, ← text_append]

/-- Clauses with nothing to write at the start, in the middle and at the
end: an empty one, a number, tests without a written form. -/
def sparse : List Value :=
  [.doc [], .doc [(.text "a", .doc [(.text "$regex", .text "x")])],
   .doc [(.text "b", .doc [(.text "$nin", .list []), (.text "$gt", .int 1),
     (.text "$in", .int 2)]), (.text "c", .null)],
   .int 3, .doc [(.text "d", .doc [(.text "$exists", .bool true)])],
   .doc [(.text "e", .text "x")], .doc []]

/-- Three conditions and two commas; with a clause more at the end, one
more of each, and none if the clause says nothing. -/
theorem text_flat_sparse :
    text sparse = "b.gt.1,c.is.null,e.eq.x"
      ∧ (∀ f ∈ conditions sparse, f.text ≠ "")
      ∧ text (sparse ++ [.doc [(.text "f", .int 5)]])
        = "b.gt.1,c.is.null,e.eq.x,f.eq.5"
      ∧ text (sparse ++ .doc [(.text "g", .doc [(.text "$nor", .null)])]
          :: [.doc [(.text "f", .int 5)]])
        = text (sparse ++ [.doc [(.text "f", .int 5)]]) := by
  obtain ⟨hflat, hne, -, hdrop, happend⟩ := text_flat sparse
  refine ⟨?_, hne, ?_, hdrop _ _ (by decide)⟩
  · rw [hflat]
    decide
  · rw [happend]
    decide

end Disjunction

end DocFilter
