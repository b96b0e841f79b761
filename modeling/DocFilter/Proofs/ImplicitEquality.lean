import Mathlib.Data.List.Forall2
import DocFilter.Proofs.CompositeText
import DocFilter.Proofs.Delivery
import DocFilter.Filter.Document

/-!
# A plain value and the test it is short for

A field with a plain value has to equal it, and so has a field with an
operator document whose one test is `$eq` with that value – the value
**tagged** (`Value.tagged`). A document has many places where a plain value
can be tagged: fields of the document itself, of the documents in an `$and`,
of the clauses of an `$or`. `Filter.Tagged` relates a document to what it is
with the values tagged at any of these places, all at once.

Everywhere but at one kind of place this changes nothing, whatever the
value is: the script is the same, so that the document runs the same on
every builder (`Filter.script_of_tagged`). The one kind of place is nothing
itself inside an `$or`. There the plain value is written `is.null` and the
test `eq.null`: a written test looks only at its tag, while a called one
looks at its operand too.

So the relation says whether such places are among those that are tagged.
If they are, the scripts still go step by step, and differ in just these
fragments of just these `$or`s (`Filter.tagged_script`); and since a text
with one fragment changed is another text, none of the changes goes unseen
(`Fragment.joined_inj_of_tagged`).
-/

namespace DocFilter

/-- **A plain value as a test of equality.** -/
def Value.tagged (v : Value) : Value := .doc [(.text Operator.eq.tag, v)]

/-- The one test of a tagged value. -/
theorem Value.condition_tagged (v : Value) :
    v.tagged.condition = .operators [(.text Operator.eq.tag, v)] := rfl

/-! ## Documents with tagged values -/

namespace Filter

/-- The values of a field in a clause of an `$or`, before and after. A plain
value may be tagged, and nothing itself if `nulls` says so. -/
inductive OrFieldTagged (nulls : Bool) : Value → Value → Prop where
  | same (v : Value) : OrFieldTagged nulls v v
  | field {v : Value} (hv : v.condition = .plain v)
    (hnull : v = .null → nulls = true) : OrFieldTagged nulls v v.tagged

/-- The elements of an `$or` before and after. -/
inductive OrClauseTagged (nulls : Bool) : Value → Value → Prop where
  | same (c : Value) : OrClauseTagged nulls c c
  /-- Some fields of a clause are tagged. -/
  | doc {ms ns : List (Key × Value)}
    (h : List.Forall₂
      (fun m n => m.1 = n.1 ∧ OrFieldTagged nulls m.2 n.2) ms ns) :
    OrClauseTagged nulls (.doc ms) (.doc ns)

mutual

/-- **Two documents, the second with some plain values of the first
tagged.** Inside an `$or` nothing itself is among them only if `nulls` says
so. -/
inductive Tagged (nulls : Bool) :
    List (Key × Value) → List (Key × Value) → Prop where
  | nil : Tagged nulls [] []
  | cons {k : Key} {v w : Value} {ms ns : List (Key × Value)}
    (hv : MemberTagged nulls k v w) (hms : Tagged nulls ms ns) :
    Tagged nulls ((k, v) :: ms) ((k, w) :: ns)

/-- The values of a member before and after. -/
inductive MemberTagged (nulls : Bool) : Key → Value → Value → Prop where
  | same (k : Key) (v : Value) : MemberTagged nulls k v v
  /-- The plain value of a field is tagged. -/
  | field {k : Key} {v : Value} (hk : k.isMarked = false)
    (hv : v.condition = .plain v) : MemberTagged nulls k v v.tagged
  | and (f : SeqForm) {cs ds : List Value} (h : ClausesTagged nulls cs ds) :
    MemberTagged nulls (.text "$and") (.seq f cs) (.seq f ds)
  | or (f : SeqForm) {cs ds : List Value}
    (h : List.Forall₂ (OrClauseTagged nulls) cs ds) :
    MemberTagged nulls (.text "$or") (.seq f cs) (.seq f ds)

/-- The elements of an `$and` before and after. -/
inductive ClausesTagged (nulls : Bool) :
    List Value → List Value → Prop where
  | nil : ClausesTagged nulls [] []
  | cons {c d : Value} {cs ds : List Value}
    (hc : ClauseTagged nulls c d) (hcs : ClausesTagged nulls cs ds) :
    ClausesTagged nulls (c :: cs) (d :: ds)

/-- One element of an `$and` before and after. -/
inductive ClauseTagged (nulls : Bool) : Value → Value → Prop where
  | same (c : Value) : ClauseTagged nulls c c
  | doc {ms ns : List (Key × Value)} (h : Tagged nulls ms ns) :
    ClauseTagged nulls (.doc ms) (.doc ns)

end

end Filter

/-! ## What becomes of fragments -/

/-- **A fragment before and after.** The one of nothing itself changes. -/
inductive Fragment.Tagged (nulls : Bool) : Fragment → Fragment → Prop where
  | same (f : Fragment) : Fragment.Tagged nulls f f
  | null (column : Value) (hnulls : nulls = true) :
    Fragment.Tagged nulls ⟨column, "is", "null"⟩ ⟨column, "eq", "null"⟩

namespace Fragment

variable {nulls : Bool}

/-- Without nothing itself no fragment changes. -/
theorem Tagged.eq {f g : Fragment} (h : Tagged false f g) : f = g := by
  cases h with
  | same => rfl
  | null _ hnulls => exact nomatch hnulls

/-- A fragment that changes keeps its length. -/
theorem Tagged.length_text {f g : Fragment} (h : Tagged nulls f g) :
    f.text.toList.length = g.text.toList.length := by
  cases h with
  | same => rfl
  | null column _ => simp [text, String.toList_append]

/-- A fragment that changes changes its text. -/
theorem Tagged.eq_of_text {f g : Fragment} (h : Tagged nulls f g)
    (htext : f.text = g.text) : f = g := by
  cases h with
  | same => rfl
  | null column _ =>
    exact absurd htext (by simp [text, String.append_assoc])

/-- Fragments joined by commas. -/
def joined (fs : List Fragment) : String :=
  ",".intercalate (fs.map text)

/-- Texts that go on alike after as many characters are alike. -/
theorem append_inj_of_length {a b s t : String}
    (hlength : a.toList.length = b.toList.length) (h : a ++ s = b ++ t) :
    a = b ∧ s = t := by
  have hlist := congrArg String.toList h
  rw [String.toList_append, String.toList_append] at hlist
  obtain ⟨hab, hst⟩ := List.append_inj hlist hlength
  exact ⟨String.toList_inj.mp hab, String.toList_inj.mp hst⟩

/-- **No change goes unseen**: if some of the fragments change, so does the
text they are joined to. -/
theorem joined_inj_of_tagged {fs gs : List Fragment}
    (h : List.Forall₂ (Tagged nulls) fs gs) (hjoin : joined fs = joined gs) :
    fs = gs := by
  induction h with
  | nil => rfl
  | @cons f g fs gs hfg hrest ih =>
    unfold joined at hjoin
    cases hrest with
    | nil =>
      rw [List.map_singleton, List.map_singleton,
        String.intercalate_singleton, String.intercalate_singleton] at hjoin
      rw [hfg.eq_of_text hjoin]
    | cons hfg' hrest' =>
      rw [List.map_cons, List.map_cons, List.map_cons, List.map_cons,
        String.intercalate_cons_cons, String.intercalate_cons_cons,
        String.append_assoc, String.append_assoc] at hjoin
      obtain ⟨hhead, htail⟩ := append_inj_of_length hfg.length_text hjoin
      rw [hfg.eq_of_text hhead, ih ((String.append_right_inj ",").mp htail)]

end Fragment

namespace Disjunction

variable {nulls : Bool}

/-- The outcome of a test in an `$or` before and after. -/
inductive OutcomeTagged (nulls : Bool) :
    Except Note Fragment → Except Note Fragment → Prop where
  | leftOut (n : Note) : OutcomeTagged nulls (.error n) (.error n)
  | written {f g : Fragment} (h : Fragment.Tagged nulls f g) :
    OutcomeTagged nulls (.ok f) (.ok g)

/-- Outcomes that stay as they are. -/
theorem forall₂_outcomeTagged_refl (os : List (Except Note Fragment)) :
    List.Forall₂ (OutcomeTagged nulls) os os := by
  refine List.forall₂_same.mpr fun o _ => ?_
  cases o with
  | error n => exact .leftOut n
  | ok f => exact .written (.same f)

/-- **A field of a clause.** Its plain value is written as the test is,
unless it is nothing. -/
theorem fieldOutcomes_tagged (column : Value) {v w : Value}
    (h : Filter.OrFieldTagged nulls v w) :
    List.Forall₂ (OutcomeTagged nulls) (fieldOutcomes column v)
      (fieldOutcomes column w) := by
  cases h with
  | same => exact forall₂_outcomeTagged_refl _
  | field hv hnull =>
    rw [fieldOutcomes, fieldOutcomes, hv, Value.condition_tagged]
    refine .cons (.written ?_) .nil
    by_cases hvnull : v = .null
    · subst hvnull
      exact .null column (hnull rfl)
    · have hplain : plain column v = ⟨column, "eq", v.filterText⟩ := by
        unfold plain
        split
        · exact absurd rfl hvnull
        · rfl
      rw [hplain]
      exact .same _

/-- An element of an `$or`. -/
theorem elementOutcomes_tagged {c d : Value}
    (h : Filter.OrClauseTagged nulls c d) :
    List.Forall₂ (OutcomeTagged nulls) (elementOutcomes c)
      (elementOutcomes d) := by
  cases h with
  | same => exact forall₂_outcomeTagged_refl _
  | doc h =>
    show List.Forall₂ _ (clauseOutcomes _) (clauseOutcomes _)
    unfold clauseOutcomes
    induction h with
    | nil => exact .nil
    | @cons m n ms ns hm _ ih =>
      refine List.rel_append ?_ ih
      show List.Forall₂ _ (fieldOutcomes m.1.toValue m.2)
        (fieldOutcomes n.1.toValue n.2)
      rw [hm.1]
      exact fieldOutcomes_tagged n.1.toValue hm.2

/-- **The outcomes of an `$or`** stay, but for the fragments of nothing
itself. -/
theorem outcomes_tagged {cs ds : List Value}
    (h : List.Forall₂ (Filter.OrClauseTagged nulls) cs ds) :
    List.Forall₂ (OutcomeTagged nulls) (outcomes cs) (outcomes ds) := by
  induction h with
  | nil => exact .nil
  | cons hc _ ih => exact List.rel_append (elementOutcomes_tagged hc) ih

/-- The fragments among outcomes before and after. -/
theorem fragmentsOf_tagged {os os' : List (Except Note Fragment)}
    (h : List.Forall₂ (OutcomeTagged nulls) os os') :
    List.Forall₂ (Fragment.Tagged nulls) (fragmentsOf os)
      (fragmentsOf os') := by
  induction h with
  | nil => exact .nil
  | cons ho _ ih =>
    cases ho with
    | leftOut n => exact ih
    | written hfg => exact .cons hfg ih

/-- The notes among outcomes stay. -/
theorem notesOf_tagged {os os' : List (Except Note Fragment)}
    (h : List.Forall₂ (OutcomeTagged nulls) os os') :
    notesOf os = notesOf os' := by
  induction h with
  | nil => rfl
  | cons ho _ ih =>
    cases ho with
    | leftOut n => exact congrArg (n :: ·) ih
    | written hfg => exact ih

/-- **Nothing itself in an `$or` is written in two ways**, plain and tagged,
at any position of any clause. -/
theorem text_ne_of_null_tagged (cs ds : List Value)
    (ps qs : List (Key × Value)) (k : Key) :
    text (cs ++ .doc (ps ++ (k, .null) :: qs) :: ds)
      ≠ text (cs ++ .doc (ps ++ (k, Value.null.tagged) :: qs) :: ds) := by
  -- What is written around the field is the same in both.
  have hfragments (v : Value) :
      fragments (cs ++ .doc (ps ++ (k, v) :: qs) :: ds)
        = fragments cs ++ (fragmentsOf (clauseOutcomes ps)
          ++ (fragmentsOf (fieldOutcomes k.toValue v)
            ++ (fragmentsOf (clauseOutcomes qs) ++ fragments ds))) := by
    simp only [fragments, outcomes, List.flatMap_append, List.flatMap_cons,
      elementOutcomes, clauseOutcomes, fragmentsOf, List.filterMap_append,
      List.append_assoc]
  have htagged : List.Forall₂ (Fragment.Tagged true)
      (fragments (cs ++ .doc (ps ++ (k, .null) :: qs) :: ds))
      (fragments (cs ++ .doc (ps ++ (k, Value.null.tagged) :: qs) :: ds)) := by
    rw [hfragments, hfragments]
    have hrefl (fs : List Fragment) :
        List.Forall₂ (Fragment.Tagged true) fs fs :=
      List.forall₂_same.mpr fun f _ => .same f
    exact List.rel_append (hrefl _) (List.rel_append (hrefl _)
      (.cons (.null k.toValue rfl) (hrefl _)))
  rw [text_eq_intercalate, text_eq_intercalate]
  intro htext
  have hsame := Fragment.joined_inj_of_tagged htagged htext
  rw [hfragments, hfragments] at hsame
  have hfield := List.append_cancel_left (List.append_cancel_left hsame)
  have hnull : (⟨k.toValue, "is", "null"⟩ : Fragment)
      = ⟨k.toValue, "eq", "null"⟩ := (List.cons.inj hfield).1
  have hname : "is" = "eq" := congrArg Fragment.name hnull
  exact absurd hname (by decide)

end Disjunction

/-! ## What becomes of scripts -/

/-- **A step before and after.** Only the call of an `$or` changes, and of
its fragments only those of nothing itself. -/
inductive Step.Tagged (nulls : Bool) : Step → Step → Prop where
  | same (s : Step) : Step.Tagged nulls s s
  | or {fs gs : List Fragment}
    (h : List.Forall₂ (Fragment.Tagged nulls) fs gs) :
    Step.Tagged nulls (.send (.or (.text (Fragment.joined fs))))
      (.send (.or (.text (Fragment.joined gs))))

/-- Without nothing itself no step changes. -/
theorem Step.Tagged.eq {s t : Step} (h : Step.Tagged false s t) : s = t := by
  cases h with
  | same => rfl
  | or h =>
    have hfs := h.imp fun _ _ hfg => hfg.eq
    rw [List.forall₂_eq_eq_eq] at hfs
    rw [hfs]

namespace Script

variable {nulls : Bool} {s s' t t' : Script}

/-- **A script before and after**: it goes step by step, to the same
fault. -/
structure Tagged (nulls : Bool) (s t : Script) : Prop where
  items : List.Forall₂ (Step.Tagged nulls) s.items t.items
  fault : s.fault = t.fault

/-- A script that stays as it is. -/
theorem Tagged.refl (s : Script) : s.Tagged nulls s :=
  ⟨List.forall₂_same.mpr fun step _ => .same step, rfl⟩

/-- Scripts one after another. -/
theorem Tagged.append (hs : Tagged nulls s s') (ht : Tagged nulls t t') :
    Tagged nulls (s ++ t) (s' ++ t') := by
  constructor
  · rw [Trail.append_def, Trail.append_def, ← hs.fault]
    cases s.fault with
    | none => exact List.rel_append hs.items ht.items
    | some f => exact hs.items
  · rw [Trail.fault_append, Trail.fault_append, hs.fault, ht.fault]

/-- Without nothing itself no script changes. -/
theorem Tagged.eq (h : Tagged false s t) : s = t := by
  have hitems := h.items.imp fun _ _ hst => hst.eq
  rw [List.forall₂_eq_eq_eq] at hitems
  obtain ⟨items, fault⟩ := s
  obtain ⟨items', fault'⟩ := t
  rw [Trail.mk.injEq]
  exact ⟨hitems, h.fault⟩

end Script

namespace Filter

variable {nulls : Bool}

/-- A key without the mark is the tag of nothing. -/
theorem operator?_of_not_isMarked {k : Key} (hk : k.isMarked = false) :
    k.operator? = none := by
  cases ho : k.operator? with
  | none => rfl
  | some op =>
    obtain rfl := Key.eq_text_of_operator? ho
    exact absurd ((isMarked_tag op).symm.trans hk) Bool.noConfusion

/-- A member with a key without the mark joins no clauses. -/
theorem memberScript_of_not_isMarked {k : Key} (hk : k.isMarked = false)
    (v : Value) : memberScript k v = otherScript k v := by
  cases v with
  | atom a => rfl
  | doc ms => rfl
  | seq f cs =>
    unfold memberScript
    rw [operator?_of_not_isMarked hk]

/-- **A field asks for the same** with its plain value tagged. -/
theorem fieldScript_tagged (column : Value) {v : Value}
    (hv : v.condition = .plain v) :
    fieldScript column v.tagged = fieldScript column v := by
  rw [fieldScript, fieldScript, hv, Value.condition_tagged]
  exact Trail.append_empty (Script.send (equality column v))

/-- The script of an `$or` before and after. -/
theorem orScript_tagged {cs ds : List Value}
    (h : List.Forall₂ (OrClauseTagged nulls) cs ds) :
    (orScript cs).Tagged nulls (orScript ds) := by
  have houtcomes := Disjunction.outcomes_tagged h
  have hnotes : Disjunction.notes cs = Disjunction.notes ds :=
    Disjunction.notesOf_tagged houtcomes
  unfold orScript
  rw [hnotes, Disjunction.text_eq_intercalate,
    Disjunction.text_eq_intercalate]
  refine (Script.Tagged.refl _).append ⟨.cons (.or ?_) .nil, rfl⟩
  exact Disjunction.fragmentsOf_tagged houtcomes

mutual

/-- **The script of a document with tagged values.** -/
theorem membersScript_tagged : {ms ns : List (Key × Value)} →
    Filter.Tagged nulls ms ns →
    (membersScript ms).Tagged nulls (membersScript ns)
  | _, _, .nil => .refl _
  | _, _, .cons hv hms =>
    (memberScript_tagged hv).append (membersScript_tagged hms)

theorem memberScript_tagged : {k : Key} → {v w : Value} →
    MemberTagged nulls k v w →
    (memberScript k v).Tagged nulls (memberScript k w)
  | _, _, _, .same _ _ => .refl _
  | k, v, _, .field hk hv => by
    rw [memberScript_of_not_isMarked hk, memberScript_of_not_isMarked hk,
      otherScript, otherScript, fieldScript_tagged k.toValue hv]
    exact .refl _
  | _, _, _, .and _ h => clausesScript_tagged h
  | _, _, _, .or _ h => orScript_tagged h

theorem clausesScript_tagged : {cs ds : List Value} →
    ClausesTagged nulls cs ds →
    (clausesScript cs).Tagged nulls (clausesScript ds)
  | _, _, .nil => .refl _
  | _, _, .cons hc hcs =>
    (clauseScript_tagged hc).append (clausesScript_tagged hcs)

theorem clauseScript_tagged : {c d : Value} → ClauseTagged nulls c d →
    (clauseScript c).Tagged nulls (clauseScript d)
  | _, _, .same _ => .refl _
  | _, _, .doc h => membersScript_tagged h

end

/-- **The script of a document with tagged values**, nothing itself in an
`$or` among them or not. -/
theorem tagged_script {ms ns : List (Key × Value)}
    (h : Filter.Tagged nulls ms ns) :
    (script (.doc ms)).Tagged nulls (script (.doc ns)) :=
  membersScript_tagged h

/-- **The script stays the same** where nothing itself is not tagged in an
`$or`. -/
theorem script_of_tagged {ms ns : List (Key × Value)}
    (h : Filter.Tagged false ms ns) :
    script (.doc ms) = script (.doc ns) :=
  (tagged_script h).eq

/-- **A plain value and its test of equality are interchangeable, but for
nothing itself inside an `$or`.** Of a document and the same with some of
its plain values tagged, at any depth,

* if nothing itself inside an `$or` is not among these, the two run the same
  on every builder and under any refusals;
* if it is among them, the two still end in the same fault or in none, and
  go step by step: each step is the same in both, except that a fragment
  `is.null` in the call of an `$or` may be an `eq.null`, and such a call is
  the same in both only if none of its fragments changes;
* it does change the text of the `$or`, in every clause it stands in. -/
theorem plain_or_tagged (ms ns : List (Key × Value)) :
    (Filter.Tagged false ms ns → ∀ refuses b,
        (script (.doc ns)).run refuses b = (script (.doc ms)).run refuses b)
      ∧ (Filter.Tagged true ms ns →
        (script (.doc ms)).fault = (script (.doc ns)).fault
          ∧ List.Forall₂ (Step.Tagged true) (script (.doc ms)).items
              (script (.doc ns)).items)
      ∧ (∀ fs gs, List.Forall₂ (Fragment.Tagged true) fs gs →
        (Fragment.joined fs = Fragment.joined gs ↔ fs = gs))
      ∧ ∀ cs ds ps qs k,
        Disjunction.text (cs ++ .doc (ps ++ (k, .null) :: qs) :: ds)
          ≠ Disjunction.text
            (cs ++ .doc (ps ++ (k, Value.null.tagged) :: qs) :: ds) := by
  refine ⟨fun h refuses b => ?_, fun h => ?_, fun fs gs h => ?_,
    Disjunction.text_ne_of_null_tagged⟩
  · rw [script_of_tagged h]
  · exact ⟨(tagged_script h).fault, (tagged_script h).items⟩
  · exact ⟨Fragment.joined_inj_of_tagged h, congrArg Fragment.joined⟩

/-- Plain values of many kinds, one in a nested `$and`, two in an `$or`. -/
def plainValues : List (Key × Value) :=
  [(.text "a", .null), (.text "b", .list [.int 1, .int 2]),
   (.text "$and", .list
     [.doc [(.text "$and", .seq .tuple
       [.doc [(.text "c", .doc [(.text "x", .bool true)])]])], .int 7]),
   (.text "$or", .seq .tuple
     [.doc [(.text "d", .text "x"), (.text "e", .null)], .null])]

/-- The same values, all tagged but for nothing itself in the `$or`; and
with `last` for that. -/
def taggedValues (last : Value) : List (Key × Value) :=
  [(.text "a", Value.null.tagged),
   (.text "b", (Value.list [.int 1, .int 2]).tagged),
   (.text "$and", .list
     [.doc [(.text "$and", .seq .tuple
       [.doc [(.text "c", (Value.doc [(.text "x", .bool true)]).tagged)]])],
      .int 7]),
   (.text "$or", .seq .tuple
     [.doc [(.text "d", (Value.text "x").tagged), (.text "e", last)], .null])]

/-- Tagging these values takes tagging the last of them. -/
theorem tagged_taggedValues {nulls : Bool} {last : Value}
    (h : OrFieldTagged nulls .null last) :
    Filter.Tagged nulls plainValues (taggedValues last) :=
  .cons (.field rfl rfl) (.cons (.field rfl rfl)
    (.cons (.and .list (.cons (.doc (.cons (.and .tuple
        (.cons (.doc (.cons (.field rfl rfl) .nil)) .nil)) .nil))
      (.cons (.same _) .nil)))
    (.cons (.or .tuple (.cons (.doc (.cons
        ⟨rfl, .field rfl fun hnull => nomatch hnull⟩ (.cons ⟨rfl, h⟩ .nil)))
      (.cons (.same _) .nil))) .nil)))

/-- The calls of the document, and of the same with four values tagged; with
the fifth tagged too the steps still correspond. -/
theorem plain_or_tagged_mixed :
    ((script (.doc (taggedValues .null))).run Refusals.none ⟨.plain, 0⟩)
        = ⟨[.sent 0 ⟨.is, [.text "a", .null], []⟩,
            .sent 1 ⟨.compare .eq,
              [.text "b", .list [.int 1, .int 2]], []⟩,
            .sent 2 ⟨.compare .eq,
              [.text "c", .doc [(.text "x", .bool true)]], []⟩,
            .sent 3 ⟨.or, [.text "d.eq.x,e.is.null"], []⟩],
           [.strayAndClause (.int 7), .strayOrClause .null],
           .ok ⟨.plain, 4⟩⟩
      ∧ List.Forall₂ (Step.Tagged true) (script (.doc plainValues)).items
        (script (.doc (taggedValues Value.null.tagged))).items := by
  obtain ⟨hruns, -, -⟩ := plain_or_tagged plainValues (taggedValues .null)
  obtain ⟨-, hsteps, -⟩ :=
    plain_or_tagged plainValues (taggedValues Value.null.tagged)
  constructor
  · rw [hruns (tagged_taggedValues (.same _))]
    rfl
  · exact (hsteps (tagged_taggedValues (.field rfl fun _ => rfl))).2

/-- **Nothing itself in an `$or`**, plain and tagged: two calls with two
texts. -/
theorem null_tagged_in_or :
    ((script (.doc [(.text "$or",
        .list [.doc [(.text "a", .null)]])])).run
          Refusals.none ⟨.plain, 0⟩).entries
        = [.sent 0 ⟨.or, [.text "a.is.null"], []⟩]
      ∧ ((script (.doc [(.text "$or",
        .list [.doc [(.text "a", Value.null.tagged)]])])).run
          Refusals.none ⟨.plain, 0⟩).entries
        = [.sent 0 ⟨.or, [.text "a.eq.null"], []⟩] := by
  constructor <;> decide

end Filter

end DocFilter
