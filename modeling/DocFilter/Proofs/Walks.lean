import DocFilter.Proofs.CompositeText
import DocFilter.Proofs.Outline

/-!
# Every walk of a filter goes by its outline

The translation of a document is the concatenation of what its parts ask
for (`Filter.membersScript_eq`), and the report on it is the concatenation
of what its parts leave out (`Report.members_eq`). Both are equations for
every document, whatever its keys and operands are, and both are proved by
the same recursion: over the members of a document, the value of a member,
the elements of an `$and`, and one such element.

The third walk, which writes an `$or`, is compared with the sites of that
`$or` (`Disjunction.outcomes_eq`); its text and its notes follow.
-/

namespace DocFilter

/-! ## What a site asks for, and what it reports -/

/-- The script of an outcome. -/
def Outcome.script : Outcome → Script
  | called c => Script.send c
  | written _ => Trail.empty
  | leftOut n _ => Script.tell n
  | stopped f => Trail.stop f

/-- The fragment of a site of an `$or`, or the note that it is left out. -/
def Outcome.written? : Outcome → Option (Except Note Fragment)
  | written f => some (.ok f)
  | leftOut n _ => some (.error n)
  | _ => none

/-- The script of a part. -/
def Part.script : Part → Script
  | alone s => s.outcome.script
  | joined _ cs => Filter.orScript cs

/-- The report on a site. Only a key can stop it. -/
def Site.report : Site → Report
  | unreadable f => Trail.stop f
  | s => Trail.ofList s.outcome.omission?.toList

/-- The report on a part. -/
def Part.report : Part → Report
  | alone s => s.report
  | p@(joined _ _) =>
    Trail.ofList (p.sites.filterMap fun s => s.outcome.omission?)

/-- The report on a reserved key names the list it lacks, or that it joins
nothing. -/
theorem Site.report_reserved (path : String) (k : Key) :
    (Site.reserved path k).report
      = Trail.one ⟨path, k,
          if k.joinsClauses then .needsList else .noConnective⟩ := rfl

/-- Items found one by one, as one list. -/
theorem Trail.concat_map_ofList {α β : Type} (as : List α)
    (g : α → Option β) :
    Trail.concat (as.map fun a => Trail.ofList (g a).toList)
      = Trail.ofList (as.filterMap g) := by
  induction as with
  | nil => rfl
  | cons a as ih =>
    rw [List.map_cons, concat_cons, ih, List.filterMap_cons]
    cases g a <;> rfl

/-! ## One test -/

namespace Outcome

variable (path : String) (column tag : Key) (operand : Value)

/-- The script of a test is that of its outcome. -/
theorem script_ofTest :
    (ofTest path column tag operand).script
      = Filter.testScript column.toValue tag operand := by
  unfold ofTest Filter.testScript
  cases tag.operator? with
  | none => rfl
  | some op =>
    cases op with
    | inList => cases operand <;> rfl
    | notInList => cases operand <;> rfl
    | regex => dsimp only; cases operand.likePattern <;> rfl
    | _ => rfl

/-- The report on a test is that of its outcome. -/
theorem omission?_ofTest :
    (ofTest path column tag operand).omission?
      = (Report.fieldReason? tag operand).map fun r => ⟨path, tag, r⟩ := by
  unfold ofTest Report.fieldReason?
  cases tag.operator? with
  | none => rfl
  | some op =>
    cases op with
    | inList => cases operand <;> rfl
    | notInList => cases operand <;> rfl
    | regex => dsimp only; cases operand.likePattern <;> rfl
    | _ => rfl

/-- What is written for a test in an `$or` is its outcome. -/
theorem written?_ofOrTest :
    (ofOrTest path column tag operand).written?
      = some (Disjunction.write column.toValue tag operand) := by
  unfold ofOrTest Disjunction.write
  cases tag.operator? with
  | none => rfl
  | some op =>
    cases op with
    | inList => cases operand <;> rfl
    | _ => rfl

/-- The report on a test in an `$or` is that of its outcome. -/
theorem omission?_ofOrTest :
    (ofOrTest path column tag operand).omission?
      = (Report.fragmentReason? tag operand).map
          fun r => ⟨path, tag, r⟩ := by
  unfold ofOrTest Report.fragmentReason?
  cases tag.operator? with
  | none => rfl
  | some op =>
    cases op with
    | inList => cases operand <;> rfl
    | _ => rfl

end Outcome

/-! ## One field -/

/-- The script of a field is that of its sites. -/
theorem Filter.fieldScript_eq (path : String) (k : Key) (v : Value) :
    Filter.fieldScript k.toValue v
      = Trail.concat ((Site.ofField path k v).map
          fun s => s.outcome.script) := by
  unfold Filter.fieldScript Site.ofField Site.ofCondition
  cases v.condition with
  | plain w =>
    rw [List.map_singleton, Trail.concat_cons, Trail.concat_nil,
      Trail.append_empty]
    rfl
  | operators ts =>
    dsimp only
    rw [List.map_map]
    refine congrArg Trail.concat (List.map_congr_left fun t _ => ?_)
    exact (Outcome.script_ofTest path k t.1 t.2).symm

/-- The tests that are left out at a path are those of the sites there. -/
theorem Report.tests_eq (reason? : Key → Value → Option Reason)
    (path : String) (plain : Value → Site) (test : Key → Value → Site)
    (hplain : ∀ w, (plain w).outcome.omission? = none)
    (htest : ∀ tag operand, (test tag operand).outcome.omission?
      = (reason? tag operand).map fun r => ⟨path, tag, r⟩) (v : Value) :
    Report.tests reason? path v
      = (Site.ofCondition plain test v).filterMap
          fun s => s.outcome.omission? := by
  unfold Report.tests Site.ofCondition
  cases v.condition with
  | plain w =>
    dsimp only
    rw [List.filterMap_cons, hplain]
    rfl
  | operators ts =>
    dsimp only
    rw [List.filterMap_map]
    refine congrArg (List.filterMap · ts) (funext fun t => ?_)
    exact (htest t.1 t.2).symm

/-- The tests of a field that are left out are those of its sites. -/
theorem Report.tests_eq_ofField (path : String) (k : Key) (v : Value) :
    Report.tests Report.fieldReason? path v
      = (Site.ofField path k v).filterMap fun s => s.outcome.omission? :=
  Report.tests_eq _ path (.plain k) (.test path k) (fun _ => rfl)
    (fun tag operand => Outcome.omission?_ofTest path k tag operand) v

/-! ## One `$or` -/

namespace Disjunction

/-- What is written for a field of a clause is what becomes of its
sites. -/
theorem fieldOutcomes_eq (path : String) (k : Key) (v : Value) :
    fieldOutcomes k.toValue v
      = (Site.ofCondition (.orPlain k) (.orTest path k) v).filterMap
          fun s => s.outcome.written? := by
  unfold fieldOutcomes Site.ofCondition
  cases v.condition with
  | plain w => rfl
  | operators ts =>
    dsimp only
    rw [List.filterMap_map, ← List.filterMap_eq_map]
    refine congrArg (List.filterMap · ts) (funext fun t => ?_)
    exact (Outcome.written?_ofOrTest path k t.1 t.2).symm

/-- What is written for an element is what becomes of its sites. -/
theorem elementOutcomes_eq (path : String) (v : Value) :
    elementOutcomes v
      = (Site.ofOrElement path v).filterMap fun s => s.outcome.written? := by
  cases v with
  | doc ms =>
    show (ms.flatMap fun m => fieldOutcomes m.1.toValue m.2) = _
    rw [Site.ofOrElement, Site.ofOrMembers, List.filterMap_flatMap]
    refine congrArg (List.flatMap · ms) (funext fun m => ?_)
    exact fieldOutcomes_eq _ m.1 m.2
  | atom a => rfl
  | seq f vs => rfl

/-- **What is written for an `$or` is what becomes of its sites.** -/
theorem outcomes_eq (path : String) (position : Nat) (cs : List Value) :
    outcomes cs
      = (Site.ofOrClauses path position cs).filterMap
          fun s => s.outcome.written? := by
  induction cs generalizing position with
  | nil => rfl
  | cons c cs ih =>
    rw [outcomes, List.flatMap_cons, ← outcomes, ih (position + 1),
      elementOutcomes_eq (Report.clausePath path position) c,
      ← List.filterMap_append]
    rfl

/-- The fragments of an `$or` are those of its sites. -/
theorem fragments_eq (path : String) (cs : List Value) :
    fragments cs
      = (Part.joined path cs).sites.filterMap
          fun s => s.outcome.fragment? := by
  rw [fragments, outcomes_eq path 0, fragmentsOf, List.filterMap_filterMap]
  refine congrArg (List.filterMap · _) (funext fun s => ?_)
  cases s.outcome <;> rfl

/-- The notes of an `$or` are those of its sites. -/
theorem notes_eq (path : String) (cs : List Value) :
    notes cs
      = (Part.joined path cs).sites.filterMap fun s => s.outcome.note? := by
  rw [notes, outcomes_eq path 0, notesOf, List.filterMap_filterMap]
  refine congrArg (List.filterMap · _) (funext fun s => ?_)
  cases s.outcome <;> rfl

end Disjunction

/-- **The call of an `$or`** has its written text. -/
theorem Part.call?_joined (path : String) (cs : List Value) :
    (Part.joined path cs).call?
      = some (.or (.text (Disjunction.text cs))) := by
  rw [Disjunction.text_eq_intercalate, Disjunction.fragments_eq path]
  rfl

/-- What a clause of an `$or` leaves out is what its sites leave out. -/
theorem Report.orMembers_eq (stem : String) (ms : List (Key × Value)) :
    Report.orMembers stem ms
      = (Site.ofOrMembers stem ms).filterMap
          fun s => s.outcome.omission? := by
  rw [Site.ofOrMembers, List.filterMap_flatMap]
  refine congrArg (List.flatMap · ms) (funext fun m => ?_)
  exact Report.tests_eq _ _ (.orPlain m.1)
    (.orTest (stem ++ m.1.display) m.1) (fun _ => rfl)
    (fun tag operand => Outcome.omission?_ofOrTest _ m.1 tag operand) m.2

/-- What an `$or` leaves out is what its sites leave out. -/
theorem Report.orClauses_eq (path : String) (position : Nat)
    (cs : List Value) :
    Report.orClauses (.text Operator.or.tag) path position cs
      = (Site.ofOrClauses path position cs).filterMap
          fun s => s.outcome.omission? := by
  induction cs generalizing position with
  | nil => rfl
  | cons c cs ih =>
    rw [Site.ofOrClauses, List.filterMap_append, ← ih]
    cases c with
    | doc ms =>
      rw [Site.ofOrElement, ← Report.orMembers_eq]
      rfl
    | atom a => rfl
    | seq f vs => rfl

/-! ## Whole documents -/

namespace Filter

/-- The script of a member that joins no clauses is that of its sites. -/
theorem otherScript_eq (path : String) (k : Key) (v : Value) :
    otherScript k v
      = Trail.concat (((Site.ofOther path k v).map .alone).map
          Part.script) := by
  rw [List.map_map]
  unfold otherScript Site.ofOther
  cases k.hasMark with
  | error f => rfl
  | ok marked =>
    cases marked with
    | true => rfl
    | false => exact fieldScript_eq path k v

mutual

/-- **The translation of a document goes by its outline**: it is what the
parts ask for, one after another. -/
theorem membersScript_eq (stem : String) : (ms : List (Key × Value)) →
    membersScript ms
      = Trail.concat ((Outline.members stem ms).map Part.script)
  | [] => rfl
  | (k, v) :: ms => by
    rw [membersScript, Outline.members, List.map_append,
      Trail.concat_append, memberScript_eq stem k v,
      membersScript_eq stem ms]

theorem memberScript_eq (stem : String) (k : Key) : (v : Value) →
    memberScript k v
      = Trail.concat ((Outline.member stem k v).map Part.script)
  | .seq f cs => by
    unfold memberScript Outline.member
    cases k.operator? with
    | none => exact otherScript_eq (stem ++ k.display) k (.seq f cs)
    | some op =>
      cases op with
      | and => exact clausesScript_eq (stem ++ k.display) 0 cs
      | or => exact (Trail.append_empty (orScript cs)).symm
      | _ => exact otherScript_eq (stem ++ k.display) k (.seq f cs)
  | .atom a => otherScript_eq (stem ++ k.display) k (.atom a)
  | .doc ms => otherScript_eq (stem ++ k.display) k (.doc ms)

theorem clausesScript_eq (path : String) (position : Nat) :
    (cs : List Value) →
    clausesScript cs
      = Trail.concat ((Outline.clauses path position cs).map Part.script)
  | [] => rfl
  | c :: cs => by
    rw [clausesScript, Outline.clauses, List.map_append,
      Trail.concat_append,
      clauseScript_eq (Report.clausePath path position) c,
      clausesScript_eq path (position + 1) cs]

theorem clauseScript_eq (path : String) : (c : Value) →
    clauseScript c = Trail.concat ((Outline.clause path c).map Part.script)
  | .doc ms => membersScript_eq (path ++ ".") ms
  | .atom _ => rfl
  | .seq _ _ => rfl

end

end Filter

namespace Report

/-- Sites outside of an `$or` that stop no report. -/
theorem concat_map_report {ss : List Site}
    (h : ∀ s ∈ ss, s.report = Trail.ofList s.outcome.omission?.toList) :
    Trail.concat ((ss.map Part.alone).map Part.report)
      = Trail.ofList (ss.filterMap fun s => s.outcome.omission?) := by
  rw [List.map_map, ← Trail.concat_map_ofList]
  exact congrArg Trail.concat (List.map_congr_left h)

/-- The sites of a field stop no report. -/
theorem report_of_mem_ofField {path : String} {k : Key} {v : Value}
    {s : Site} (hs : s ∈ Site.ofField path k v) :
    s.report = Trail.ofList s.outcome.omission?.toList := by
  unfold Site.ofField Site.ofCondition at hs
  split at hs
  · obtain rfl := List.mem_singleton.mp hs
    rfl
  · obtain ⟨t, -, rfl⟩ := List.mem_map.mp hs
    rfl

/-- A key that could join clauses is reserved. -/
theorem ofOther_of_joinsClauses {path : String} {k : Key} {v : Value}
    (h : k.joinsClauses = true) :
    Site.ofOther path k v = [.reserved path k] := by
  obtain rfl | rfl := Key.joinsClauses_iff.mp h
  · rfl
  · rfl

/-- The report on a member that joins no clauses is that on its sites. -/
theorem other_eq (path : String) {k : Key} (v : Value)
    (h : k.joinsClauses = false) :
    other path k v
      = Trail.concat (((Site.ofOther path k v).map .alone).map
          Part.report) := by
  unfold other Site.ofOther
  cases k.hasMark with
  | error f => rfl
  | ok marked =>
    cases marked with
    | true =>
      -- The key joins no clauses, so it is not a list that it lacks.
      show _ = Trail.concat [(Site.reserved path k).report]
      rw [Site.report_reserved, h]
      exact (Trail.append_empty _).symm
    | false =>
      dsimp only
      rw [concat_map_report fun s hs => report_of_mem_ofField hs,
        tests_eq_ofField path k v]

/-- The report on a reserved key that lacks its list of clauses. -/
theorem needsList_eq (path : String) {k : Key} (v : Value)
    (h : k.joinsClauses = true) :
    Trail.one ⟨path, k, .needsList⟩
      = Trail.concat (((Site.ofOther path k v).map .alone).map
          Part.report) := by
  rw [ofOther_of_joinsClauses h]
  show _ = Trail.concat [(Site.reserved path k).report]
  rw [Site.report_reserved, h]
  exact (Trail.append_empty _).symm

/-- The report on a member with a value that is no list. -/
theorem member_eq_of_not_seq (path : String) (k : Key) (v : Value) :
    (match k.operator? with
      | some .and | some .or => Trail.one ⟨path, k, .needsList⟩
      | _ => other path k v)
      = Trail.concat (((Site.ofOther path k v).map .alone).map
          Part.report) := by
  cases h : k.operator? with
  | none => exact other_eq path v (by simp [Key.joinsClauses, h])
  | some op =>
    cases op with
    | and => exact needsList_eq path v (by simp [Key.joinsClauses, h])
    | or => exact needsList_eq path v (by simp [Key.joinsClauses, h])
    | _ => exact other_eq path v (by simp [Key.joinsClauses, h])

mutual

/-- **The report on a document goes by its outline**: it is what the parts
leave out, one after another. -/
theorem members_eq (stem : String) : (ms : List (Key × Value)) →
    members stem ms
      = Trail.concat ((Outline.members stem ms).map Part.report)
  | [] => rfl
  | (k, v) :: ms => by
    rw [members, Outline.members, List.map_append, Trail.concat_append,
      member_eq stem k v, members_eq stem ms]

theorem member_eq (stem : String) (k : Key) : (v : Value) →
    member stem k v
      = Trail.concat ((Outline.member stem k v).map Part.report)
  | .seq f cs => by
    unfold member Outline.member
    cases h : k.operator? with
    | none => exact other_eq _ (.seq f cs) (by simp [Key.joinsClauses, h])
    | some op =>
      cases op with
      | and =>
        -- The report hands the key on; it is the text of its tag.
        obtain rfl := Key.eq_text_of_operator? h
        exact clauses_eq _ 0 cs
      | or =>
        obtain rfl := Key.eq_text_of_operator? h
        dsimp only
        rw [orClauses_eq]
        exact (Trail.append_empty _).symm
      | _ => exact other_eq _ (.seq f cs) (by simp [Key.joinsClauses, h])
  | .atom a => member_eq_of_not_seq (stem ++ k.display) k (.atom a)
  | .doc ms => member_eq_of_not_seq (stem ++ k.display) k (.doc ms)

theorem clauses_eq (path : String) (position : Nat) : (cs : List Value) →
    clauses (.text Operator.and.tag) path position cs
      = Trail.concat ((Outline.clauses path position cs).map Part.report)
  | [] => rfl
  | c :: cs => by
    rw [clauses, Outline.clauses, List.map_append, Trail.concat_append,
      clause_eq (clausePath path position) c,
      clauses_eq path (position + 1) cs]

theorem clause_eq (path : String) : (c : Value) →
    clause (.text Operator.and.tag) path c
      = Trail.concat ((Outline.clause path c).map Part.report)
  | .doc ms => members_eq (path ++ ".") ms
  | .atom _ => rfl
  | .seq _ _ => rfl

end

end Report

end DocFilter
