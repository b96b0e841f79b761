import DocFilter.Filter.Document
import DocFilter.Proofs.Obstacles
import DocFilter.Proofs.Threading
import DocFilter.Report.Written

/-!
# Walks that are cut short

Both walks of a document – the one that applies it to a builder and the one
that reports on it – go on until something stops them. What they have done by
then is the beginning of what they do where all integers are written: the
calls and notes of `Filter.script`, the omissions of `Report.ofFilter`. Such
a beginning is **cut short** at the first obstacle that stops the walk
(`Trail.CutShort`); it is the whole unless that obstacle is there because of
the limit on digits.

Parts that are cut short join to a whole that is
(`Trail.CutShort.append`), so the statement is carried along the recursion of
each walk. One that hands a builder on is first described by a script, which
is then cut short (`Filter.Follows`). The results are
`Filter.follows_doc` and `Report.cutShort_doc`.
-/

namespace DocFilter

/-! ## Trails that are cut short -/

namespace Trail

/-- The items of a trail begin those of a longer one. -/
theorem items_prefix_append {α : Type} (s t : Trail α) :
    s.items <+: (s ++ t).items := by
  rcases s with ⟨as, _ | f⟩
  · exact List.prefix_append as t.items
  · exact List.prefix_rfl

/-- **A trail is the beginning of another**, and ends in the fault of the
first obstacle that stops it. It is the whole trail unless it is stopped by
the limit on digits. -/
structure CutShort {α : Type} (limit : DigitLimit) (stops : Obstacle → Bool)
    (found : List Obstacle) (whole t : Trail α) : Prop where
  items : t.items <+: whole.items
  fault : t.fault = (found.find? stops).map (Obstacle.fault limit)
  eq_whole : (∀ o ∈ found, stops o = true → o.isLong = false) → t = whole

namespace CutShort

variable {α : Type} {limit : DigitLimit} {stops : Obstacle → Bool}

/-- A whole trail, without an obstacle. -/
theorem refl {whole : Trail α} (hfault : whole.fault = none) :
    CutShort limit stops [] whole whole where
  items := List.prefix_rfl
  fault := hfault
  eq_whole _ := rfl

/-- An obstacle that is one under any limit. -/
theorem stop {o : Obstacle} (hstops : stops o = true) :
    CutShort limit stops [o] (Trail.stop (o.fault limit))
      (Trail.stop (o.fault limit) : Trail α) where
  items := List.prefix_rfl
  fault := by
    rw [List.find?_cons_of_pos hstops]
    rfl
  eq_whole _ := rfl

/-- A trail that nothing has stopped is whole. -/
theorem eq_whole_of_find?_eq_none {found : List Obstacle}
    {whole t : Trail α} (h : CutShort limit stops found whole t)
    (hnone : found.find? stops = none) : t = whole :=
  h.eq_whole fun o ho hstops =>
    absurd hstops (List.find?_eq_none.mp hnone o ho)

/-- A trail without an obstacle of the limit is whole. -/
theorem eq_whole_of_not_isLong {found : List Obstacle}
    {whole t : Trail α} (h : CutShort limit stops found whole t)
    (hlong : ∀ o ∈ found, o.isLong = false) : t = whole :=
  h.eq_whole fun o ho _ => hlong o ho

/-- **One trail after another.** -/
theorem append {f g : List Obstacle} {s' s t' t : Trail α}
    (hs : CutShort limit stops f s' s) (ht : CutShort limit stops g t' t) :
    CutShort limit stops (f ++ g) (s' ++ t') (s ++ t) where
  items := by
    cases hfault : s.fault with
    | some e =>
      have hend : s ++ t = s := by rw [append_def, hfault]
      rw [hend]
      exact hs.items.trans (items_prefix_append s' t')
    | none =>
      -- Nothing has stopped the first part, so it is whole.
      have hnone : f.find? stops = none :=
        Option.map_eq_none_iff.mp (hs.fault.symm.trans hfault)
      obtain rfl := hs.eq_whole_of_find?_eq_none hnone
      rw [items_append_of_fault_eq_none hfault,
        items_append_of_fault_eq_none hfault]
      exact (List.prefix_append_right_inj s.items).mpr ht.items
  fault := by
    rw [fault_append, hs.fault, ht.fault, List.find?_append, Option.map_or]
  eq_whole h := by
    rw [hs.eq_whole fun o ho => h o (List.mem_append_left g ho),
      ht.eq_whole fun o ho => h o (List.mem_append_right f ho)]

/-- Obstacles that do not stop the trail make no difference. -/
theorem of_filter_eq {f g : List Obstacle} {t' t : Trail α}
    (h : g.filter stops = f.filter stops)
    (ht : CutShort limit stops f t' t) : CutShort limit stops g t' t where
  items := ht.items
  fault := by
    rw [ht.fault, ← List.head?_filter, ← List.head?_filter, h]
  eq_whole hg := ht.eq_whole fun o ho hstops =>
    have hmem : o ∈ g.filter stops :=
      h ▸ List.mem_filter.mpr ⟨ho, hstops⟩
    hg o (List.mem_filter.mp hmem).1 hstops

end CutShort

end Trail

/-! ## Translations -/

/-- The mark is looked for in the keys that are texts. -/
theorem Obstacle.hasMark_eq (limit : DigitLimit) (k : Key) :
    k.hasMark
      = match k.text? with
        | none => .error ((key k).fault limit)
        | some s => .ok (isMarked s) := by
  cases k with
  | tuple ks => rfl
  | atom a => cases a <;> rfl

namespace Filter

/-- **A walk that hands a builder on follows a script**, if it is described
by a script that is cut short at the obstacles. -/
def Follows (limit : DigitLimit) (found : List Obstacle) (whole : Script)
    (walk : Refusals → Builder → Run Builder) : Prop :=
  ∃ s : Script, s.Describes walk
    ∧ Trail.CutShort limit Obstacle.stopsTranslation found whole s

namespace Follows

variable {limit : DigitLimit}

/-- A walk without obstacles. -/
theorem of_describes {s : Script}
    {walk : Refusals → Builder → Run Builder} (h : s.Describes walk)
    (hfault : s.fault = none) : Follows limit [] s walk :=
  ⟨s, h, .refl hfault⟩

/-- A fault at once. -/
theorem stop {o : Obstacle} (hstops : o.stopsTranslation = true) :
    Follows limit [o] (Trail.stop (o.fault limit))
      fun _ _ => Run.fail (o.fault limit) :=
  ⟨_, .stop _, .stop hstops⟩

/-- **One walk after another.** -/
theorem append {f g : List Obstacle} {s t : Script}
    {walk walk' : Refusals → Builder → Run Builder}
    (hs : Follows limit f s walk) (ht : Follows limit g t walk') :
    Follows limit (f ++ g) (s ++ t) fun refuses b =>
      (walk refuses b).andThen fun b => walk' refuses b := by
  obtain ⟨u, hu, hcut⟩ := hs
  obtain ⟨v, hv, hcut'⟩ := ht
  exact ⟨u ++ v, hu.append hv, hcut.append hcut'⟩

/-- Obstacles that do not stop a walk make no difference. -/
theorem of_filter_eq {f g : List Obstacle} {s : Script}
    {walk : Refusals → Builder → Run Builder}
    (h : g.filter Obstacle.stopsTranslation
      = f.filter Obstacle.stopsTranslation)
    (hs : Follows limit f s walk) : Follows limit g s walk := by
  obtain ⟨u, hu, hcut⟩ := hs
  exact ⟨u, hu, hcut.of_filter_eq h⟩

/-- **A call that holds a text**, which is written first. -/
theorem call {fits : Bool} {ns : List Note} {text : String}
    {r : Run String} (h : r.Writes limit fits ns text)
    (c : String → Call) :
    Follows limit (Obstacle.unlessFits fits .longText)
      (Script.tellAll ns ++ Script.send (c text))
      fun refuses b => r.andThen fun text => b.call refuses (c text) := by
  refine ⟨Script.ofRun r fun text => Script.send (c text),
    .ofRun h.entries fun text => .send (c text), ?_⟩
  cases hfits : fits with
  | true =>
    rw [h.of_fit hfits]
    exact .refl rfl
  | false =>
    have hresult := h.of_not_fit hfits
    unfold Script.ofRun
    rw [hresult]
    refine ⟨?_, rfl, fun hlong => ?_⟩
    · show r.notes.map Step.tell ++ [] <+: ns.map .tell ++ [.send (c text)]
      rw [List.append_nil]
      exact (h.notes_prefix.map _).trans (List.prefix_append _ _)
    · exact nomatch hlong .longText (List.mem_singleton_self _) rfl

end Follows

variable (limit : DigitLimit)

/-- A `$regex` follows its script. -/
theorem follows_regex (column : Value) : (operand : Value) →
    Follows limit (Obstacle.ofTest limit (.text Operator.regex.tag) operand)
      (testScript column (.text Operator.regex.tag) operand)
      fun refuses b =>
        b.applyTest limit refuses column (.text Operator.regex.tag) operand
  | .pattern (.bytes source) => .stop (o := .bytesPattern source) rfl
  | .pattern (.text _ _) => .call (.guard [_] _) fun p =>
    .ilike column (.text (LikePattern.anywhere p))
  | .null | .bool _ | .int _ | .float _ | .text _ | .bytes _ | .seq _ _
  | .doc _ => .call (.guard [_] _) fun p =>
    .ilike column (.text (LikePattern.anywhere p))

/-- **A test** follows its script. -/
theorem follows_test (column : Value) (tag : Key) (operand : Value) :
    Follows limit (Obstacle.ofTest limit tag operand)
      (testScript column tag operand)
      fun refuses b => b.applyTest limit refuses column tag operand := by
  cases htag : tag.operator? with
  | none =>
    unfold Obstacle.ofTest testScript Builder.applyTest
    rw [htag]
    exact .of_describes (.told _) rfl
  | some op =>
    obtain rfl := Key.eq_text_of_operator? htag
    cases op with
    | eq | ne | gt | gte | lt | lte | present =>
      exact .of_describes (.send _) rfl
    | and | or | not | nor => exact .of_describes (.told _) rfl
    | inList =>
      cases operand with
      | seq f vs => exact .of_describes (.send _) rfl
      | atom a | doc ms => exact .of_describes (.told _) rfl
    | notInList =>
      cases operand with
      | seq f vs => exact .call (.guard vs _) _
      | atom a | doc ms => exact .of_describes (.told _) rfl
    | regex => exact follows_regex limit column operand

/-- Tests on a field follow their scripts. -/
theorem follows_tests (column : Value) (tests : List (Key × Value)) :
    Follows limit
      (tests.flatMap fun t => Obstacle.ofTest limit t.1 t.2)
      (Trail.concat (tests.map fun t => testScript column t.1 t.2))
      fun refuses b => b.applyTests limit refuses column tests := by
  induction tests with
  | nil => exact .of_describes .empty rfl
  | cons t tests ih => exact (follows_test limit column t.1 t.2).append ih

/-- **A field** follows its script. -/
theorem follows_field (column v : Value) :
    Follows limit (Obstacle.ofField limit v) (fieldScript column v)
      fun refuses b => b.applyField limit refuses column v := by
  unfold Obstacle.ofField fieldScript Builder.applyField
  cases v.condition with
  | plain v => exact .of_describes (.send _) rfl
  | operators tests => exact follows_tests limit column tests

/-- A member that joins no clauses follows its script. -/
theorem follows_other (k : Key) (v : Value) :
    Follows limit (Obstacle.ofOther limit k v) (otherScript k v)
      fun refuses b => b.applyOther limit refuses k v := by
  unfold Obstacle.ofOther otherScript Builder.applyOther
  rw [Obstacle.hasMark_eq limit k]
  cases k.text? with
  | none => exact .stop rfl
  | some s =>
    dsimp only
    cases isMarked s with
    | true => exact .of_describes (.told _) rfl
    | false => exact follows_field limit k.toValue v

/-- No path stops a translation. -/
theorem filter_ofPath (k : Key) :
    (Obstacle.ofPath limit k).filter Obstacle.stopsTranslation = [] := by
  unfold Obstacle.ofPath Obstacle.unlessFits
  split <;> rfl

/-- No path in an `$or` stops a translation. -/
theorem filter_ofOrElement (c : Value) :
    (Obstacle.ofOrElement limit c).filter Obstacle.stopsTranslation
      = [] := by
  cases c with
  | atom a => rfl
  | seq f vs => rfl
  | doc ms =>
    unfold Obstacle.ofOrElement
    rw [List.filter_flatMap, List.flatMap_eq_nil_iff]
    intro m _
    unfold Obstacle.ofOrField
    dsimp only
    split
    · rfl
    · exact filter_ofPath limit m.1

/-- An `$or` follows its script. -/
theorem follows_or (clauses : List Value) :
    Follows limit (Obstacle.ofOr limit clauses) (orScript clauses)
      fun refuses b => b.applyOr limit refuses clauses := by
  have hpaths : (clauses.flatMap (Obstacle.ofOrElement limit)).filter
      Obstacle.stopsTranslation = [] := by
    rw [List.filter_flatMap, List.flatMap_eq_nil_iff]
    exact fun c _ => filter_ofOrElement limit c
  refine Follows.of_filter_eq ?_
    (.call (Disjunction.writes_all limit clauses) fun text =>
      .or (.text text))
  rw [Obstacle.ofOr, List.filter_append, hpaths, List.append_nil]

/-- A member that joins no clauses, with the key in front. -/
theorem follows_path {found : List Obstacle} {s : Script}
    {walk : Refusals → Builder → Run Builder} (k : Key)
    (h : Follows limit found s walk) :
    Follows limit (Obstacle.ofPath limit k ++ found) s walk := by
  refine h.of_filter_eq ?_
  rw [List.filter_append, filter_ofPath, List.nil_append]

mutual

/-- **The members of a document** follow their scripts. -/
theorem follows_members : (ms : List (Key × Value)) →
    Follows limit (obstacles limit ms) (membersScript ms)
      fun refuses b => b.applyMembers limit refuses ms
  | [] => .of_describes .empty rfl
  | (k, v) :: ms => by
    rw [obstacles, membersScript]
    exact (follows_member k v).append (follows_members ms)

theorem follows_member (k : Key) : (v : Value) →
    Follows limit (Obstacle.ofPath limit k ++ memberObstacles limit k v)
      (memberScript k v)
      fun refuses b => b.applyMember limit refuses k v
  | .seq f cs => by
    refine follows_path limit k ?_
    unfold memberObstacles memberScript Builder.applyMember
    cases k.operator? with
    | none => exact follows_other limit k (.seq f cs)
    | some op =>
      cases op with
      | and => exact follows_clauses cs
      | or => exact follows_or limit cs
      | _ => exact follows_other limit k (.seq f cs)
  | .atom a => follows_path limit k (follows_other limit k (.atom a))
  | .doc ms => follows_path limit k (follows_other limit k (.doc ms))

theorem follows_clauses : (cs : List Value) →
    Follows limit (clausesObstacles limit cs) (clausesScript cs)
      fun refuses b => b.applyClauses limit refuses cs
  | [] => .of_describes .empty rfl
  | c :: cs => by
    rw [clausesObstacles, clausesScript]
    exact (follows_clause c).append (follows_clauses cs)

theorem follows_clause : (c : Value) →
    Follows limit (clauseObstacles limit c) (clauseScript c)
      fun refuses b => b.applyClause limit refuses c
  | .doc ms => follows_members ms
  | .atom _ => .of_describes (.told _) rfl
  | .seq _ _ => .of_describes (.told _) rfl

end

/-- **A filter** follows its script. -/
theorem follows_doc (ms : List (Key × Value)) :
    Follows limit (obstacles limit ms) (script (.doc ms))
      fun refuses b => b.applyFilter limit refuses (.doc ms) :=
  follows_members limit ms

end Filter

/-! ## Reports -/

namespace Report

variable {limit : DigitLimit}

/-- A report is cut short at the obstacles that stop reports. -/
abbrev CutShort (limit : DigitLimit) (found : List Obstacle)
    (whole t : Report) : Prop :=
  Trail.CutShort limit Obstacle.stopsReport found whole t

/-- **What is under a key**, whose path is written first. -/
theorem cutShort_under (k : Key) {found : List Obstacle} {whole t : Report}
    (h : CutShort limit found whole t) :
    CutShort limit (Obstacle.ofPath limit k ++ found) whole
      (under limit k t) := by
  unfold Obstacle.ofPath Obstacle.unlessFits under
  cases k.fits limit with
  | true => exact h
  | false =>
    refine ⟨List.nil_prefix, rfl, fun hlong => ?_⟩
    exact nomatch hlong (.longPath k) (List.mem_cons_self ..) rfl

/-- A whole report. -/
theorem cutShort_ofList (os : List Omission) :
    CutShort limit [] (Trail.ofList os) (Trail.ofList os) :=
  .refl rfl

/-- **A field of an `$or`.** -/
theorem cutShort_orField (stem : String) (k : Key) (v : Value) :
    CutShort limit (Obstacle.ofOrField limit k v)
      (Trail.ofList (tests fragmentReason? (stem ++ k.display) v))
      (orFieldWithin limit stem k v) := by
  unfold Obstacle.ofOrField orFieldWithin
  cases hv : v.condition with
  | plain w =>
    have hnone : tests fragmentReason? (stem ++ k.display) v = [] := by
      unfold tests
      rw [hv]
    rw [hnone]
    exact cutShort_ofList []
  | operators ts =>
    have hunder : CutShort limit (Obstacle.ofPath limit k ++ []) _ _ :=
      cutShort_under k (cutShort_ofList
        (tests fragmentReason? (stem ++ k.display) v))
    rwa [List.append_nil] at hunder

/-- The members of an element of an `$or`. -/
theorem cutShort_orMembers (stem : String) (ms : List (Key × Value)) :
    CutShort limit (ms.flatMap fun m => Obstacle.ofOrField limit m.1 m.2)
      (Trail.ofList (orMembers stem ms)) (orMembersWithin limit stem ms) := by
  induction ms with
  | nil => exact cutShort_ofList []
  | cons m ms ih => exact (cutShort_orField stem m.1 m.2).append ih

/-- **The elements of an `$or`.** -/
theorem cutShort_orClauses (k : Key) (path : String) (position : Nat)
    (cs : List Value) :
    CutShort limit (cs.flatMap (Obstacle.ofOrElement limit))
      (Trail.ofList (orClauses k path position cs))
      (orClausesWithin limit k path position cs) := by
  induction cs generalizing position with
  | nil => exact cutShort_ofList []
  | cons c cs ih =>
    have hrest := ih (position + 1)
    cases c with
    | doc ms => exact (cutShort_orMembers _ ms).append hrest
    | atom a => exact (cutShort_ofList [_]).append hrest
    | seq f vs => exact (cutShort_ofList [_]).append hrest

/-- No test stops a report. -/
theorem filter_ofTest (tag : Key) (operand : Value) :
    (Obstacle.ofTest limit tag operand).filter Obstacle.stopsReport = [] := by
  unfold Obstacle.ofTest Obstacle.unlessFits
  split
  · rfl
  · split <;> rfl
  · split <;> rfl
  · rfl

/-- No condition on a field stops a report. -/
theorem filter_ofField (v : Value) :
    (Obstacle.ofField limit v).filter Obstacle.stopsReport = [] := by
  unfold Obstacle.ofField
  cases v.condition with
  | plain w => rfl
  | operators tests =>
    dsimp only
    rw [List.filter_flatMap, List.flatMap_eq_nil_iff]
    exact fun t _ => filter_ofTest t.1 t.2

/-- A member that joins no clauses. -/
theorem cutShort_other (path : String) (k : Key) (v : Value) :
    CutShort limit (Obstacle.ofOther limit k v) (other path k v)
      (other path k v) := by
  unfold Obstacle.ofOther other
  rw [Obstacle.hasMark_eq limit k]
  cases k.text? with
  | none => exact .stop rfl
  | some s =>
    dsimp only
    cases isMarked s with
    | true => exact .refl rfl
    | false =>
      refine Trail.CutShort.of_filter_eq ?_ (cutShort_ofList _)
      exact filter_ofField v

/-- A member with a value that is no list. -/
theorem cutShort_of_not_seq (path : String) (k : Key) (v : Value) :
    let here : Report := match k.operator? with
      | some .and | some .or => Trail.one ⟨path, k, .needsList⟩
      | _ => other path k v
    CutShort limit (Obstacle.ofOther limit k v) here here := by
  cases h : k.operator? with
  | none => exact cutShort_other path k v
  | some op =>
    cases op with
    | and | or =>
      obtain rfl := Key.eq_text_of_operator? h
      exact cutShort_ofList [_]
    | _ => exact cutShort_other path k v

/-- **An `$or`**, of which no text is made. -/
theorem cutShort_or (k : Key) (path : String) (cs : List Value) :
    CutShort limit (Obstacle.ofOr limit cs)
      (Trail.ofList (orClauses k path 0 cs))
      (orClausesWithin limit k path 0 cs) := by
  refine Trail.CutShort.of_filter_eq ?_ (cutShort_orClauses k path 0 cs)
  unfold Obstacle.ofOr Obstacle.unlessFits
  split <;> rfl

mutual

/-- **The members of a document.** -/
theorem cutShort_members (stem : String) : (ms : List (Key × Value)) →
    CutShort limit (Filter.obstacles limit ms) (members stem ms)
      (membersWithin limit stem ms)
  | [] => cutShort_ofList []
  | (k, v) :: ms => by
    rw [Filter.obstacles, members, membersWithin]
    exact (cutShort_under k (cutShort_member stem k v)).append
      (cutShort_members stem ms)

theorem cutShort_member (stem : String) (k : Key) : (v : Value) →
    CutShort limit (Filter.memberObstacles limit k v) (member stem k v)
      (memberWithin limit stem k v)
  | .seq f cs => by
    unfold Filter.memberObstacles member memberWithin
    cases k.operator? with
    | none => exact cutShort_other _ k (.seq f cs)
    | some op =>
      cases op with
      | and => exact cutShort_clauses k _ 0 cs
      | or => exact cutShort_or k _ cs
      | _ => exact cutShort_other _ k (.seq f cs)
  | .atom a => cutShort_of_not_seq _ k (.atom a)
  | .doc ms => cutShort_of_not_seq _ k (.doc ms)

theorem cutShort_clauses (k : Key) (path : String) (position : Nat) :
    (cs : List Value) →
    CutShort limit (Filter.clausesObstacles limit cs)
      (clauses k path position cs)
      (clausesWithin limit k path position cs)
  | [] => cutShort_ofList []
  | c :: cs => by
    rw [Filter.clausesObstacles, clauses, clausesWithin]
    exact (cutShort_clause k _ c).append
      (cutShort_clauses k path (position + 1) cs)

theorem cutShort_clause (k : Key) (path : String) : (c : Value) →
    CutShort limit (Filter.clauseObstacles limit c) (clause k path c)
      (clauseWithin limit k path c)
  | .doc ms => cutShort_members (path ++ ".") ms
  | .atom _ => cutShort_ofList [_]
  | .seq _ _ => cutShort_ofList [_]

end

/-- **The report on a filter.** -/
theorem cutShort_doc (limit : DigitLimit) (ms : List (Key × Value)) :
    CutShort limit (Filter.obstacles limit ms) (ofFilter (.doc ms))
      (ofFilterWithin limit (.doc ms)) :=
  cutShort_members "" ms

end Report

end DocFilter
