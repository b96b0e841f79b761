import DocFilter.Proofs.Outline

/-!
# What can become of a test

Of all the calls of the builder contract a filter uses few, and these with
few arguments: what is tested for by `is` is nothing, and what is negated is
such a test or a written list (`Filter.FieldCall`). A test on a field
becomes such a call, is left out for one of three reasons, or ends the
translation (`Outcome.testOutcome_ofTest`). A test in an `$or` becomes a
fragment or is left out for one of two (`Outcome.orTestOutcome_ofOrTest`).

The tables of operators are gone through here and nowhere after.
-/

namespace DocFilter

namespace Filter

/-- **The calls a field can ask for.** -/
inductive FieldCall (column : Value) : Call → Prop where
  | compare (op : Comparison) (operand : Value) :
    FieldCall column (.compare op column operand)
  | isNull : FieldCall column (.is column .null)
  | notNull : FieldCall column (.not column (.text "is") .null)
  | isIn (vs : List Value) : FieldCall column (.isIn column (.list vs))
  | notIn (list : String) :
    FieldCall column (.not column (.text "in") (.text list))
  | ilike (pattern : String) : FieldCall column (.ilike column (.text pattern))

variable {column : Value}

/-- A call that a field asks for is about its column. -/
theorem FieldCall.column? {c : Call} (h : FieldCall column c) :
    c.column? = some column := by
  cases h <;> rfl

/-- Equality is tested by `is` or by comparison. -/
theorem fieldCall_equality (column v : Value) :
    FieldCall column (equality column v) := by
  unfold equality
  split
  · exact .isNull
  · exact .compare .eq v

/-- Difference is tested by a negated `is` or by comparison. -/
theorem fieldCall_difference (column v : Value) :
    FieldCall column (difference column v) := by
  unfold difference
  split
  · exact .notNull
  · exact .compare .neq v

/-- Presence is tested by `is`, negated or not. -/
theorem fieldCall_presence (column : Value) (wanted : Bool) :
    FieldCall column (presence column wanted) := by
  cases wanted with
  | true => exact .notNull
  | false => exact .isNull

end Filter

/-- A plain fragment is on its column. -/
theorem Disjunction.column_plain (column v : Value) :
    (plain column v).column = column := by
  unfold plain
  split <;> rfl

/-- **What can become of a test on a field.** -/
inductive TestOutcome (path : String) (column tag : Key) :
    Outcome → Prop where
  | called {c : Call} (hc : Filter.FieldCall column.toValue c) :
    TestOutcome path column tag (.called c)
  | noCall : TestOutcome path column tag
      (.leftOut (.noCall tag column.toValue) ⟨path, tag, .noCall⟩)
  /-- It is a membership test that lacks its list. -/
  | inWithoutList (h : tag = .text "$in") : TestOutcome path column tag
      (.leftOut (.inWithoutList column.toValue) ⟨path, tag, .needsList⟩)
  /-- It is a test for absence that lacks its list. -/
  | notInWithoutList (h : tag = .text "$nin") : TestOutcome path column tag
      (.leftOut (.notInWithoutList column.toValue) ⟨path, tag, .needsList⟩)
  | stopped (f : Fault) : TestOutcome path column tag (.stopped f)

/-- **What can become of a test in an `$or`.** -/
inductive OrTestOutcome (path : String) (column tag : Key) :
    Outcome → Prop where
  | written {f : Fragment} (hf : f.column = column.toValue) :
    OrTestOutcome path column tag (.written f)
  | notWritten : OrTestOutcome path column tag
      (.leftOut (.notWritten tag column.toValue) ⟨path, tag, .notWritten⟩)
  /-- It is a membership test that lacks its list. -/
  | inWithoutList (h : tag = .text "$in") : OrTestOutcome path column tag
      (.leftOut (.writtenInWithoutList column.toValue)
        ⟨path, tag, .needsList⟩)

namespace Outcome

variable (path : String) (column tag : Key) (operand : Value)

/-- **A test on a field** becomes a call on the field, is left out at its
path, or ends the translation. -/
theorem testOutcome_ofTest :
    TestOutcome path column tag (ofTest path column tag operand) := by
  unfold ofTest
  cases h : tag.operator? with
  | none => exact .noCall
  | some op =>
    have htag : tag = .text op.tag := Key.eq_text_of_operator? h
    -- Only the tests of lists and of patterns look at the operand.
    cases op with
    | eq => exact .called (Filter.fieldCall_equality _ operand)
    | ne => exact .called (Filter.fieldCall_difference _ operand)
    | gt => exact .called (.compare .gt operand)
    | gte => exact .called (.compare .gte operand)
    | lt => exact .called (.compare .lt operand)
    | lte => exact .called (.compare .lte operand)
    | present => exact .called (Filter.fieldCall_presence _ _)
    | inList =>
      cases operand with
      | seq f vs => exact .called (.isIn vs)
      | atom a => exact .inWithoutList htag
      | doc ms => exact .inWithoutList htag
    | notInList =>
      cases operand with
      | seq f vs => exact .called (.notIn _)
      | atom a => exact .notInWithoutList htag
      | doc ms => exact .notInWithoutList htag
    | regex =>
      dsimp only
      cases operand.likePattern with
      | ok p => exact .called (.ilike _)
      | error f => exact .stopped f
    | and | or | not | nor => exact .noCall

/-- **A test in an `$or`** becomes a fragment on the field, or is left out
at its path. -/
theorem orTestOutcome_ofOrTest :
    OrTestOutcome path column tag (ofOrTest path column tag operand) := by
  unfold ofOrTest
  cases h : tag.operator? with
  | none => exact .notWritten
  | some op =>
    have htag : tag = .text op.tag := Key.eq_text_of_operator? h
    cases op with
    | inList =>
      cases operand with
      | seq f vs => exact .written rfl
      | atom a => exact .inWithoutList htag
      | doc ms => exact .inWithoutList htag
    | eq | ne | gt | gte | lt | lte => exact .written rfl
    | _ => exact .notWritten

/-- An outcome with a call is that call. -/
theorem eq_called_of_call? {r : Outcome} {c : Call} (h : r.call? = some c) :
    r = called c := by
  cases r with
  | called d => exact congrArg called (Option.some.inj h)
  | _ => exact nomatch h

end Outcome

namespace Site

/-- The column a site is about, if it is about one. -/
def column? : Site → Option Value
  | plain k _ | test _ k _ _ | orPlain k _ | orTest _ k _ _ => some k.toValue
  | reserved .. | strayConjunct .. | strayDisjunct .. | unreadable _ => none

/-- **The call of a site is one that its column can ask for.** -/
theorem fieldCall_of_outcome {s : Site} {c : Call}
    (h : s.outcome = .called c) :
    ∃ column, s.column? = some column ∧ Filter.FieldCall column c := by
  cases s with
  | plain k v =>
    injection h with h
    exact ⟨k.toValue, rfl, h ▸ Filter.fieldCall_equality k.toValue v⟩
  | test path k tag operand =>
    have hspec := Outcome.testOutcome_ofTest path k tag operand
    rw [show Outcome.ofTest path k tag operand = .called c from h] at hspec
    cases hspec with
    | called hc => exact ⟨k.toValue, rfl, hc⟩
  | orTest path k tag operand =>
    have hspec := Outcome.orTestOutcome_ofOrTest path k tag operand
    rw [show Outcome.ofOrTest path k tag operand = .called c from h] at hspec
    exact nomatch hspec
  | _ => exact nomatch h

end Site

end DocFilter
