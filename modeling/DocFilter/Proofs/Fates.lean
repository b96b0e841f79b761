import DocFilter.Proofs.Translation

/-!
# What becomes of a part, wherever it stands

A part of an outline knows its path, and the paths of a filter shift when an
element of a list is taken out of it. The **fate** of a part forgets the
path: it holds the outcomes of its sites, and whether they make up an `$or`.
What the part asks for and what the report says of it can be read off its
fate (`Part.script_fate`, `Part.report_fate`); so script and report of a
document go by its fates (`Filter.script_eq_fates`,
`Filter.report_eq_fates`).

A fate without the outcomes that are left out (`Fate.kept?`) asks for the
same calls without their notes, and nothing in it is reported.
-/

namespace DocFilter

namespace Outcome

/-- Whether something other than an omission becomes of a site. -/
def isKept (r : Outcome) : Bool := r.omission?.isNone

end Outcome

/-! ## The fate of a part -/

/-- **What becomes of a part**, whatever its path. -/
inductive Fate where
  /-- The mark cannot be looked for in its key. -/
  | unreadable (fault : Fault)
  /-- Its site has an outcome. -/
  | alone (outcome : Outcome)
  /-- The sites of an `$or` have outcomes, in order. -/
  | joined (outcomes : List Outcome)

/-- The fate of a part. -/
def Part.fate : Part → Fate
  | alone (.unreadable f) => .unreadable f
  | alone s => .alone s.outcome
  | p@(joined _ _) => .joined (p.sites.map Site.outcome)

namespace Fate

/-- The outcomes that a fate holds. -/
def outcomes : Fate → List Outcome
  | unreadable f => [.stopped f]
  | alone r => [r]
  | joined rs => rs

/-- **What a fate is without what is left out.** An `$or` stays one, even
if nothing else of it does. -/
def kept? : Fate → Option Fate
  | unreadable f => some (unreadable f)
  | alone r => if r.isKept then some (alone r) else none
  | joined rs => some (joined (rs.filter Outcome.isKept))

/-- The script of a fate. -/
def script : Fate → Script
  | unreadable f => Trail.stop f
  | alone r => r.script
  | joined rs =>
    Script.tellAll (rs.filterMap Outcome.note?)
      ++ Script.send (.or (.text (",".intercalate
        ((rs.filterMap Outcome.fragment?).map Fragment.text))))

/-- The report on a fate. -/
def report : Fate → Report
  | unreadable f => Trail.stop f
  | alone r => Trail.ofList r.omission?.toList
  | joined rs => Trail.ofList (rs.filterMap Outcome.omission?)

end Fate

namespace Part

/-- The outcomes of the sites of a part are those of its fate. -/
theorem outcomes_fate (p : Part) :
    p.fate.outcomes = p.sites.map Site.outcome := by
  cases p with
  | joined path cs => rfl
  | alone s => cases s <;> rfl

/-- The report on a part is that on its fate. -/
theorem report_fate (p : Part) : p.fate.report = p.report := by
  cases p with
  | alone s => cases s <;> rfl
  | joined path cs =>
    simp only [fate, Fate.report, List.filterMap_map]
    rfl

end Part

namespace Fate

/-- A report that does not end at a fate lists the omissions it holds. -/
theorem items_report {t : Fate} (h : t.report.fault = none) :
    t.report.items = t.outcomes.filterMap Outcome.omission? := by
  cases t with
  | unreadable f => exact nomatch h
  | alone r => cases r <;> rfl
  | joined rs => rfl

end Fate

namespace Filter

/-- **The fates of a document**, in order. -/
def fates (ms : List (Key × Value)) : List Fate :=
  (Value.doc ms).outline.map Part.fate

/-- The report on a document goes by its fates. -/
theorem report_eq_fates (ms : List (Key × Value)) :
    Report.ofFilter (.doc ms)
      = Trail.concat ((fates ms).map Fate.report) := by
  show Report.members "" ms = _
  rw [Report.members_eq, fates, List.map_map]
  exact congrArg Trail.concat
    (List.map_congr_left fun p _ => p.report_fate.symm)

/-- The outcomes of the sites of a document are those its fates hold. -/
theorem outcomes_sites (ms : List (Key × Value)) :
    (Value.doc ms).sites.map Site.outcome
      = (fates ms).flatMap Fate.outcomes := by
  rw [Value.sites, List.map_flatMap, fates, List.flatMap_map]
  exact List.flatMap_congr fun p _ => p.outcomes_fate.symm

/-- A report that no key ends lists the omissions of all sites. -/
theorem omissions_of_fault_eq_none {ms : List (Key × Value)}
    (h : (Report.ofFilter (.doc ms)).fault = none) :
    (Value.doc ms).omissions
      = .ok (((Value.doc ms).sites.map Site.outcome).filterMap
          Outcome.omission?) := by
  rw [report_eq_fates, Trail.fault_concat_eq_none_iff] at h
  rw [Value.omissions, report_eq_fates, Trail.toExcept_concat h,
    List.flatMap_map, outcomes_sites, List.filterMap_flatMap]
  refine congrArg Except.ok (List.flatMap_congr fun t ht => ?_)
  exact Fate.items_report (h t.report (List.mem_map_of_mem ht))

end Filter

end DocFilter
