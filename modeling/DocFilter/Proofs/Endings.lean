import DocFilter.Proofs.CutShort
import DocFilter.Proofs.Delivery

/-!
# Where a walk of a document ends

A translation of a document ends in the fault of the first obstacle that
stops translations (`Filter.result_applyFilter`), a report in that of the
first one that stops reports (`Filter.omissionsWithin_doc`); without such an
obstacle neither ends in a fault, whatever the keys, tags, operands and values
are. Both are in `Filter.stops_at_first_obstacle`, with what an `$or` ends in.

Without a limit on digits the obstacles are keys that are no texts and
regular expressions over bytes, and an `$or` is always written. Within one
there are more (`Filter.long_integers_stop`).
-/

namespace DocFilter

/-- The fault of an obstacle has its wording. -/
theorem Obstacle.message_fault (limit : DigitLimit) (o : Obstacle) :
    (o.fault limit).message = o.wording limit := by
  have hkind (k : Kind) : (Fault.notMarkable k).message
      = "'" ++ k.name ++ "' object has no attribute 'startswith'" := by
    cases k <;> decide
  cases o with
  | bytesPattern _ | longText | longPath _ => rfl
  | key k =>
    cases k with
    | tuple ks => exact hkind .tuple
    | atom a =>
      cases a with
      | bytes bs => rfl
      | _ => exact hkind _

/-- **Where all integers are written**, a report lists what the filter leaves
out. -/
theorem Value.omissionsWithin_of_fits {limit : DigitLimit} {v : Value}
    (h : v.fits limit = true) : v.omissionsWithin limit = v.omissions := by
  cases v with
  | atom a => rfl
  | seq f vs => rfl
  | doc ms =>
    have hwhole := (Report.cutShort_doc limit ms).eq_whole_of_not_isLong
      (Filter.not_isLong_members h)
    exact congrArg Trail.toExcept hwhole

namespace Filter

/-- **A translation of a document** ends in the fault of the first obstacle
that stops translations. -/
theorem result_applyFilter (limit : DigitLimit) (ms : List (Key × Value))
    (b : Builder) :
    (b.applyFilter limit Refusals.none (.doc ms)).result
      = match (obstacles limit ms).find? Obstacle.stopsTranslation with
        | none => .ok (b.after (script (.doc ms)).calls.length)
        | some o => .error (o.fault limit) := by
  obtain ⟨s, hs, hcut⟩ := follows_doc limit ms
  have hrun : b.applyFilter limit Refusals.none (.doc ms)
      = s.run Refusals.none b := hs Refusals.none b
  rw [hrun, Script.run_none, hcut.fault]
  cases hfind : (obstacles limit ms).find? Obstacle.stopsTranslation with
  | some o => rfl
  | none =>
    rw [hcut.eq_whole_of_find?_eq_none hfind]
    rfl

/-- **A report on a document** ends in the fault of the first obstacle that
stops reports. -/
theorem omissionsWithin_doc (limit : DigitLimit) (ms : List (Key × Value)) :
    (Value.doc ms).omissionsWithin limit
      = match (obstacles limit ms).find? Obstacle.stopsReport with
        | none => .ok (Report.ofFilter (.doc ms)).items
        | some o => .error (o.fault limit) := by
  have hcut := Report.cutShort_doc limit ms
  rw [Value.omissionsWithin, Trail.toExcept, hcut.fault]
  cases hfind : (obstacles limit ms).find? Obstacle.stopsReport with
  | some o => rfl
  | none =>
    rw [hcut.eq_whole_of_find?_eq_none hfind]
    rfl

/-- **Walks stop at obstacles and at nothing else.** For every document and
every limit on digits,

* a translation on a builder that refuses nothing ends in the fault of the
  first obstacle that stops translations, and gives a builder if there is
  none;
* a report ends in the fault of the first obstacle that stops reports, and
  lists what it has found if there is none;
* the fault of an obstacle has its wording;
* the text of an `$or` with a list is written, or ends in the fault of the
  limit, according to whether all that is written of it fits.

Where all integers of the document are written, no obstacle is there because
of the limit. An `$or` whose clauses fit holds no obstacle of any kind, and
it is written. -/
theorem stops_at_first_obstacle (limit : DigitLimit)
    (ms : List (Key × Value)) (b : Builder) :
    (b.applyFilter limit Refusals.none (.doc ms)).result
        = (match (obstacles limit ms).find? Obstacle.stopsTranslation with
          | none => .ok (b.after (script (.doc ms)).calls.length)
          | some o => .error (o.fault limit))
      ∧ (Value.doc ms).omissionsWithin limit
        = (match (obstacles limit ms).find? Obstacle.stopsReport with
          | none => .ok (Report.ofFilter (.doc ms)).items
          | some o => .error (o.fault limit))
      ∧ (∀ o : Obstacle, (o.fault limit).message = o.wording limit)
      ∧ (∀ cs, (Disjunction.writeAll limit cs).result
        = if Disjunction.fits limit cs then .ok (Disjunction.text cs)
          else .error limit.fault)
      ∧ (Value.membersFit limit ms = true →
        ∀ o ∈ obstacles limit ms, o.isLong = false)
      ∧ ∀ f cs, Value.allFit limit cs = true →
        obstacles limit [(.text Operator.or.tag, .seq f cs)] = []
          ∧ Disjunction.fits limit cs = true := by
  refine ⟨result_applyFilter limit ms b, omissionsWithin_doc limit ms,
    Obstacle.message_fault limit,
    fun cs => (Disjunction.writes_all limit cs).result_eq,
    not_isLong_members, fun f cs h => ⟨?_, Disjunction.fits_of_allFit h⟩⟩
  show [] ++ Obstacle.ofOr limit cs ++ [] = []
  rw [Obstacle.ofOr_of_allFit h]
  rfl

/-- A regular expression over bytes inside an `$and`, and behind it a key
that is a number. An `$or` in front of both holds one of each. -/
def obstructed : List (Key × Value) :=
  [(.text "$or", .list
     [.doc [(.atom (.int 4),
       .doc [(.text "$regex", .pattern (.bytes [120]))])]]),
   (.text "$and", .list
     [.int 7, .doc [(.text "a",
       .doc [(.text "$gt", .null), (.text "$regex", .pattern (.bytes []))])]]),
   (.atom (.int 3), .null)]

/-- The translation stops at the expression, the report at the number; the
`$or` stops neither, and the limit has no part in it. -/
theorem stops_at_first_obstacle_of_two :
    obstacles .usual obstructed = [.bytesPattern [], .key (.atom (.int 3))]
      ∧ (Builder.applyFilter .usual Refusals.none ⟨.plain, 0⟩
          (.doc obstructed)).result = .error .markInBytes
      ∧ (Value.doc obstructed).omissionsWithin .usual
        = .error (.notMarkable .int)
      ∧ (Fault.notMarkable .int).message
        = "'int' object has no attribute 'startswith'"
      ∧ Value.membersFit .usual obstructed = true
      ∧ (∀ o ∈ obstacles .usual obstructed, o.isLong = false)
      ∧ (Disjunction.writeAll .usual [.doc [(.text "a", .int 5)]]).result
        = .ok "a.eq.5" := by
  have hobstacles : obstacles .usual obstructed
      = [.bytesPattern [], .key (.atom (.int 3))] := by decide +kernel
  have hfit : Value.membersFit .usual obstructed = true := by decide +kernel
  have hclauses : Value.allFit .usual [.doc [(.text "a", .int 5)]] = true := by
    decide +kernel
  obtain ⟨htranslation, hreport, hmessage, htext, hlong, hor⟩ :=
    stops_at_first_obstacle .usual obstructed ⟨.plain, 0⟩
  rw [hobstacles] at htranslation hreport
  refine ⟨hobstacles, htranslation, hreport, hmessage (.key (.atom (.int 3))),
    hfit, hlong hfit, ?_⟩
  rw [htext, (hor .list _ hclauses).2]
  exact congrArg Except.ok (by decide +kernel)

/-- An integer with more digits than are usually written. -/
def longInteger : Int := Int.ofNat (Nat.pow 10 5000)

/-- The list of a `$nin`, with such an integer. -/
def longList : List (Key × Value) :=
  [(.text "a", .doc [(.text "$nin", .list [.int longInteger])])]

/-- The source of a `$regex` that is such an integer. -/
def longSource : List (Key × Value) :=
  [(.text "a", .doc [(.text "$regex", .int longInteger)])]

/-- An `$or` with a test on a column that is such an integer. The test has no
written form. -/
def longColumn : List (Key × Value) :=
  [(.text "$or", .list
    [.doc [(.atom (.int longInteger), .doc [(.text "$size", .null)])]])]

/-- **An integer that is too long stops what nothing else stops.** No walk
meets a key that is no text in these documents, nor a regular expression over
bytes: where the limit is lifted, they hold no obstacle. Within the usual
limit translating the first two, writing an `$or` and reporting on the third
end in the fault of the limit. -/
theorem long_integers_stop :
    (obstacles .lifted longList = [] ∧ obstacles .lifted longSource = []
        ∧ obstacles .lifted longColumn = [])
      ∧ (Builder.applyFilter .usual Refusals.none ⟨.plain, 0⟩
          (.doc longList)).result = .error (.tooManyDigits 4300)
      ∧ (Builder.applyFilter .usual Refusals.none ⟨.plain, 0⟩
          (.doc longSource)).result = .error (.tooManyDigits 4300)
      ∧ (Disjunction.writeAll .usual
          [.doc [(.text "a", .int longInteger)]]).result
        = .error (.tooManyDigits 4300)
      ∧ (Value.doc longColumn).omissionsWithin .usual
        = .error (.tooManyDigits 4300) := by
  have hlist : obstacles .usual longList = [.longText] := by decide +kernel
  have hsource : obstacles .usual longSource = [.longText] := by
    decide +kernel
  have hcolumn : obstacles .usual longColumn
      = [.longPath (.atom (.int longInteger))] := by decide +kernel
  have htext : Disjunction.fits .usual
      [.doc [(.text "a", .int longInteger)]] = false := by decide +kernel
  refine ⟨by decide +kernel, ?_, ?_, ?_, ?_⟩
  · rw [result_applyFilter, hlist]
    rfl
  · rw [result_applyFilter, hsource]
    rfl
  · exact (Disjunction.writes_all .usual _).of_not_fit htext
  · rw [omissionsWithin_doc, hcolumn]
    rfl

end Filter

end DocFilter
