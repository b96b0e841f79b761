import Mathlib.Data.List.Forall2
import DocFilter.Proofs.CompositeText
import DocFilter.Proofs.WholeNumbers

/-!
# What the filter text of a value forgets

The filter text of a value is less than the value. It forgets two things.

**How values are nested.** A sequence is joined by commas and so are the
sequences in it, with nothing around them; so the text is that of the
**leaves**, the values that are no sequences, from left to right
(`Value.filterText_eq_leaves`). An empty sequence would be an exception: it
has no leaf, but a text, and a comma beside it.

**Whether a whole number is a float.** A float that stands for an integer is
written like it, at any size and by all its digits. One value is **trimmed**
to another (`Value.Trimmed`) if the other has integers in place of some whole
floats, at any depth of sequences. What is written of both is the same, by
itself, in a list, quoted or not, and as an operand in an `$or`. The relation
stops at documents, since these are displayed and not written.

The main statement is `Value.text_by_leaves_and_numbers`.
-/

namespace DocFilter

namespace Value

/-! ## Leaves -/

mutual

/-- **The leaves of a value**, from left to right: all in it that is no
sequence, down to documents. -/
def leaves : Value → List Value
  | .seq _ vs => leavesOf vs
  | v => [v]

/-- The leaves of a list of values. -/
def leavesOf : List Value → List Value
  | [] => []
  | v :: vs => v.leaves ++ leavesOf vs

end

mutual

/-- **Whether no sequence is empty**, neither the value nor one in it. -/
def isFilled : Value → Bool
  | .seq _ vs => !vs.isEmpty && areFilled vs
  | _ => true

/-- Whether no sequence in a list of values is empty. -/
def areFilled : List Value → Bool
  | [] => true
  | v :: vs => v.isFilled && areFilled vs

end

mutual

/-- No leaf is a sequence. -/
theorem isSeq_of_mem_leaves : (v : Value) → ∀ u ∈ v.leaves, u.isSeq = false
  | .atom a, u, hu => by
    obtain rfl := List.mem_singleton.mp hu
    rfl
  | .doc ms, u, hu => by
    obtain rfl := List.mem_singleton.mp hu
    rfl
  | .seq _ vs, u, hu => isSeq_of_mem_leavesOf vs u hu

theorem isSeq_of_mem_leavesOf :
    (vs : List Value) → ∀ u ∈ leavesOf vs, u.isSeq = false
  | [], _, hu => absurd hu List.not_mem_nil
  | v :: vs, u, hu =>
    (List.mem_append.mp hu).elim (isSeq_of_mem_leaves v u)
      (isSeq_of_mem_leavesOf vs u)

end

mutual

/-- A filled value has a leaf. -/
theorem leaves_ne_nil : (v : Value) → v.isFilled = true → v.leaves ≠ []
  | .atom a, _ => List.cons_ne_nil _ _
  | .doc ms, _ => List.cons_ne_nil _ _
  | .seq _ vs, h => by
    rw [isFilled, Bool.and_eq_true] at h
    exact leavesOf_ne_nil vs h.2 (by simpa using h.1)

theorem leavesOf_ne_nil : (vs : List Value) → areFilled vs = true →
    vs ≠ [] → leavesOf vs ≠ []
  | [], _, hne => absurd rfl hne
  | v :: vs, h, _ => by
    rw [areFilled, Bool.and_eq_true] at h
    exact List.append_ne_nil_of_left_ne_nil (leaves_ne_nil v h.1) _

end

mutual

/-- **The text of a filled value** is that of its leaves, joined. -/
theorem filterText_eq_leaves : (v : Value) → v.isFilled = true →
    v.filterText = ",".intercalate (v.leaves.map filterText)
  | .atom a, _ => String.intercalate_singleton.symm
  | .doc ms, _ => String.intercalate_singleton.symm
  | .seq _ vs, h => by
    rw [isFilled, Bool.and_eq_true] at h
    exact intercalate_filterTexts vs h.2 (by simpa using h.1)

theorem intercalate_filterTexts : (vs : List Value) →
    areFilled vs = true → vs ≠ [] →
    ",".intercalate (filterTexts vs)
      = ",".intercalate ((leavesOf vs).map filterText)
  | [], _, hne => absurd rfl hne
  | [v], h, _ => by
    rw [areFilled, Bool.and_eq_true] at h
    rw [leavesOf, leavesOf, List.append_nil, ← filterText_eq_leaves v h.1]
    exact String.intercalate_singleton
  | v :: w :: vs, h, _ => by
    rw [areFilled, Bool.and_eq_true] at h
    have hfirst : v.leaves.map filterText ≠ [] := fun hnil =>
      leaves_ne_nil v h.1 (List.map_eq_nil_iff.mp hnil)
    have hothers : (leavesOf (w :: vs)).map filterText ≠ [] := fun hnil =>
      leavesOf_ne_nil (w :: vs) h.2 (List.cons_ne_nil w vs)
        (List.map_eq_nil_iff.mp hnil)
    rw [leavesOf, List.map_append,
      String.intercalate_append_of_ne_nil hfirst hothers,
      ← filterText_eq_leaves v h.1,
      ← intercalate_filterTexts (w :: vs) h.2 (List.cons_ne_nil w vs)]
    exact String.intercalate_cons_cons

end

/-! ## Whole floats as integers -/

mutual

/-- **A value trimmed to another**, which has integers in place of some whole
floats. -/
inductive Trimmed : Value → Value → Prop
  /-- Nothing is replaced. -/
  | same (v : Value) : Trimmed v v
  /-- A float is replaced by the integer that it equals. -/
  | whole {x : Binary64} {n : Int}
    (h : (Value.float x).equals (.int n) = true) :
    Trimmed (.float x) (.int n)
  /-- Floats are replaced in a sequence. -/
  | seq (form : SeqForm) {vs ws : List Value} (h : AllTrimmed vs ws) :
    Trimmed (.seq form vs) (.seq form ws)

/-- A list of values trimmed one by one. -/
inductive AllTrimmed : List Value → List Value → Prop
  | nil : AllTrimmed [] []
  | cons {v w : Value} {vs ws : List Value} (h : Trimmed v w)
    (hs : AllTrimmed vs ws) : AllTrimmed (v :: vs) (w :: ws)

end

mutual

/-- **A value is written like what it is trimmed to.** -/
theorem Trimmed.filterText {v w : Value} :
    Trimmed v w → v.filterText = w.filterText
  | .same _ => rfl
  | .whole (x := x) (n := n) h => by
    have hinteger : x.integer? = some n := equals_float_int_iff.mp h
    show (Atom.float x).filterText = _
    rw [Atom.filterText, hinteger]
    rfl
  | .seq _ h => congrArg (",".intercalate ·) h.filterTexts

theorem AllTrimmed.filterTexts {vs ws : List Value} :
    AllTrimmed vs ws → Value.filterTexts vs = Value.filterTexts ws
  | .nil => rfl
  | .cons h hs => congrArg₂ List.cons h.filterText hs.filterTexts

end

/-- An item is written like what it is trimmed to. -/
theorem Trimmed.itemText {v w : Value} (h : v.Trimmed w) (quoted : Bool) :
    v.itemText quoted = w.itemText quoted := by
  cases h with
  | same => rfl
  | whole h => exact (Trimmed.whole h).filterText
  | seq form h => exact (Trimmed.seq form h).filterText

/-- **A list is written like what it is trimmed to**, quoted or not. -/
theorem AllTrimmed.listText {vs ws : List Value} (h : AllTrimmed vs ws)
    (quoted : Bool) : Value.listText quoted vs = Value.listText quoted ws := by
  have hitems : vs.map (Value.itemText quoted)
      = ws.map (Value.itemText quoted) := by
    induction vs generalizing ws with
    | nil =>
      cases h
      rfl
    | cons v vs ih =>
      cases h with
      | cons hv hvs =>
        exact congrArg₂ List.cons (hv.itemText quoted) (ih hvs)
  rw [Value.listText, hitems]
  rfl

end Value

namespace Disjunction

open Value (Trimmed)

/-! ## Operands in an `$or` -/

/-- Members with the same keys, whose values are related. -/
def MembersRelated (related : Value → Value → Prop) :
    List (Key × Value) → List (Key × Value) → Prop :=
  List.Forall₂ fun m n => m.1 = n.1 ∧ related m.2 n.2

/-- **A condition trimmed in its operands**: a plain one, or some of the tests
of an operator document. -/
inductive ConditionTrimmed : Value → Value → Prop
  /-- A plain value is trimmed. -/
  | plain {v w : Value} (h : v.Trimmed w) : ConditionTrimmed v w
  /-- The operands of tests are trimmed. -/
  | operators {ts us : List (Key × Value)}
    (hmarked : (Value.doc ts).hasTests = true)
    (h : MembersRelated Trimmed ts us) :
    ConditionTrimmed (.doc ts) (.doc us)

/-- **An element of an `$or` trimmed** in the conditions of its fields. -/
inductive ElementTrimmed : Value → Value → Prop
  /-- Nothing is replaced. -/
  | same (c : Value) : ElementTrimmed c c
  /-- The conditions of a clause are trimmed. -/
  | clause {ms ns : List (Key × Value)}
    (h : MembersRelated ConditionTrimmed ms ns) :
    ElementTrimmed (.doc ms) (.doc ns)

/-- Lists with related entries have the same image, if related entries do. -/
theorem map_eq_of_forall₂ {α β : Type} {related : α → α → Prop} {f : α → β}
    {as bs : List α} (h : List.Forall₂ related as bs)
    (hf : ∀ a b, related a b → f a = f b) : as.map f = bs.map f := by
  rw [← List.forall₂_eq_eq_eq, List.forall₂_map_left_iff,
    List.forall₂_map_right_iff]
  exact h.imp hf

/-- **The outcome of a test** is the same with a trimmed operand. -/
theorem write_trimmed {v w : Value} (h : v.Trimmed w) (column : Value)
    (tag : Key) : write column tag v = write column tag w := by
  unfold write
  cases tag.operator? with
  | none => rfl
  | some op =>
    cases op with
    | inList =>
      cases h with
      | same => rfl
      | whole => rfl
      | seq form h =>
        dsimp only
        rw [h.listText false]
    | _ =>
      dsimp only
      rw [h.filterText]

/-- **The fragment of a plain value** is the same when it is trimmed. -/
theorem plain_trimmed {v w : Value} (h : v.Trimmed w) (column : Value) :
    plain column v = plain column w := by
  cases h with
  | same => rfl
  | whole h =>
    exact congrArg (Fragment.mk column "eq") (Trimmed.whole h).filterText
  | seq form h =>
    exact congrArg (Fragment.mk column "eq") (Trimmed.seq form h).filterText

/-- The outcomes of an operator document are those of its tests. -/
theorem fieldOutcomes_of_hasTests {ts : List (Key × Value)}
    (h : (Value.doc ts).hasTests = true) (column : Value) :
    fieldOutcomes column (.doc ts) = ts.map fun t => write column t.1 t.2 := by
  have hcondition : (Value.doc ts).condition = .operators ts := if_pos h
  unfold fieldOutcomes
  rw [hcondition]

/-- The outcomes of a condition are the same when it is trimmed. -/
theorem fieldOutcomes_trimmed {v w : Value} (h : ConditionTrimmed v w)
    (column : Value) : fieldOutcomes column v = fieldOutcomes column w := by
  cases h with
  | plain h =>
    have hplain := plain_trimmed h column
    cases h with
    | same => rfl
    | whole | seq => exact congrArg (fun f => [Except.ok f]) hplain
  | @operators ts us hmarked h =>
    -- The keys are the same, and so the second is an operator document, too.
    have hmarks : ts.map (fun t => t.1.isMarked)
        = us.map (fun u => u.1.isMarked) :=
      map_eq_of_forall₂ h fun t u htu => by rw [htu.1]
    have hany (ms : List (Key × Value)) : (Value.doc ms).hasTests
        = (ms.map fun m => m.1.isMarked).any id := by
      rw [List.any_map]
      rfl
    have hmarked' : (Value.doc us).hasTests = true := by
      rw [hany, ← hmarks, ← hany, hmarked]
    rw [fieldOutcomes_of_hasTests hmarked, fieldOutcomes_of_hasTests hmarked']
    exact map_eq_of_forall₂ h fun t u htu => by
      rw [htu.1, write_trimmed htu.2]

/-- The outcomes of an element are the same when it is trimmed. -/
theorem elementOutcomes_trimmed {c d : Value} (h : ElementTrimmed c d) :
    elementOutcomes c = elementOutcomes d := by
  cases h with
  | same => rfl
  | @clause ms ns h =>
    show ms.flatMap (fun m => fieldOutcomes m.1.toValue m.2)
      = ns.flatMap (fun n => fieldOutcomes n.1.toValue n.2)
    rw [List.flatMap_def, List.flatMap_def]
    refine congrArg List.flatten (map_eq_of_forall₂ h fun m n hmn => ?_)
    rw [hmn.1, fieldOutcomes_trimmed hmn.2]

/-- **The outcomes of an `$or`** are the same when it is trimmed. -/
theorem outcomes_trimmed {cs ds : List Value}
    (h : List.Forall₂ ElementTrimmed cs ds) : outcomes cs = outcomes ds := by
  unfold outcomes
  rw [List.flatMap_def, List.flatMap_def,
    map_eq_of_forall₂ h fun c d => elementOutcomes_trimmed]

/-- **The text of an `$or`** is the same when it is trimmed. -/
theorem text_trimmed {cs ds : List Value}
    (h : List.Forall₂ ElementTrimmed cs ds) : text cs = text ds := by
  rw [text_eq_intercalate, text_eq_intercalate, fragments, fragments,
    outcomes_trimmed h]

end Disjunction

namespace Value

open Disjunction (ElementTrimmed)

/-- **The text of a value is that of its leaves, and a whole number is one
number.**

* If no sequence in a value is empty, its text is that of its leaves, from
  left to right, with commas between them; and no leaf is a sequence.
* A float equals an integer exactly if it is finite and this is its value, of
  whatever size and with either sign of zero.
* A value in which any such floats are replaced by the integers they equal
  has the same text, gives the same fragment as a plain value, and has the
  same outcome as the operand of any test.
* A list of such values is written the same, quoted or not.
* An `$or` in which any operands are replaced like this has the same text. -/
theorem text_by_leaves_and_numbers :
    (∀ v : Value, v.isFilled = true →
        v.filterText = ",".intercalate (v.leaves.map filterText)
          ∧ ∀ u ∈ v.leaves, u.isSeq = false)
      ∧ (∀ (x : Binary64) (n : Int), (Value.float x).equals (.int n) = true
        ↔ x.isFinite = true
          ∧ n * 2 ^ (-x.scale).toNat = x.signed * 2 ^ x.scale.toNat)
      ∧ (∀ v w : Value, v.Trimmed w → v.filterText = w.filterText
        ∧ ∀ column, Disjunction.plain column v = Disjunction.plain column w
          ∧ ∀ tag, Disjunction.write column tag v
            = Disjunction.write column tag w)
      ∧ (∀ vs ws : List Value, AllTrimmed vs ws →
        ∀ quoted, Value.listText quoted vs = Value.listText quoted ws)
      ∧ ∀ cs ds : List Value, List.Forall₂ ElementTrimmed cs ds →
        Disjunction.text cs = Disjunction.text ds := by
  refine ⟨fun v hv => ⟨filterText_eq_leaves v hv, isSeq_of_mem_leaves v⟩,
    fun x n => ?_, fun v w h => ⟨h.filterText, fun column => ?_⟩,
    fun vs ws h => h.listText, fun cs ds => Disjunction.text_trimmed⟩
  · rw [equals_float_int_iff, Binary64.integer?_eq_some_iff]
  · exact ⟨Disjunction.plain_trimmed h column,
      Disjunction.write_trimmed h column⟩

/-- A float above all integers that floats tell apart, whose own text has an
exponent, and the negative zero, two sequences deep, beside a text: by
themselves, in a quoted list, and as an operand in an `$or`. -/
theorem text_by_leaves_and_numbers_large :
    let x : Binary64 := ⟨false, 1099, 0x52d02c7e14af6⟩
    let n : Int := 99999999999999991611392
    let v : Value := .list [.seq .tuple [.float x, .text "a"],
      .float (Binary64.zero true)]
    let w : Value := .list [.seq .tuple [.int n, .text "a"], .int 0]
    let clause (operand : Value) : Value :=
      .doc [(.text "f", .doc [(.text "$in", operand)])]
    x.text = "1e+23" ∧ v.isFilled = true ∧ v.Trimmed w
      ∧ v.filterText = ",".intercalate [(Value.float x).filterText,
        "a", (Value.float (Binary64.zero true)).filterText]
      ∧ v.filterText = w.filterText
      ∧ w.filterText = "99999999999999991611392,a,0"
      ∧ Disjunction.write (.text "f") (.text "$in") v
        = Disjunction.write (.text "f") (.text "$in") w
      ∧ Value.listText true [v] = Value.listText true [w]
      ∧ Disjunction.text [clause v] = Disjunction.text [clause w]
      ∧ Disjunction.text [clause w]
        = "f.in.(99999999999999991611392,a,0)" := by
  intro x n v w clause
  have htrimmed : v.Trimmed w :=
    .seq .list (.cons (.seq .tuple (.cons (.whole (by decide +kernel))
      (.cons (.same _) .nil))) (.cons (.whole (by decide +kernel)) .nil))
  have hclause : ElementTrimmed (clause v) (clause w) :=
    .clause (.cons ⟨rfl, .operators rfl (.cons ⟨rfl, htrimmed⟩ .nil)⟩ .nil)
  obtain ⟨hleaves, -, hnumbers, hlists, hor⟩ := text_by_leaves_and_numbers
  obtain ⟨htext, hcolumn⟩ := hnumbers v w htrimmed
  exact ⟨by decide +kernel, rfl, htrimmed, (hleaves v rfl).1, htext,
    by decide +kernel, (hcolumn (.text "f")).2 (.text "$in"),
    hlists [v] [w] (.cons htrimmed .nil) true,
    hor [clause v] [clause w] (.cons hclause .nil), by decide +kernel⟩

end Value

end DocFilter
