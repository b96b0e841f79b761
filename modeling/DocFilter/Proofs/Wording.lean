import DocFilter.Proofs.Outcomes
import DocFilter.Proofs.Places

/-!
# How a place is worded

The path of an omission is put together from names that a user chooses, and
a name may look like a path: a key `$or[0].a`, a field in an `$or` that is
called `$and[0].b`, a tag with dots and brackets. An omission tells its
place all the same (`Place.omission_inj`).

A path is read from the left. As long as it goes on with `$and[`, a number
and `].`, it leads into another `$and`; and the path of a spot goes on like
that only in two cases (`Place.stem_append_inj`). An element of an `$and`
that is no document has a path that ends where the others have a dot. And a
reserved key may be called anything at all; but then the omission names the
key as its operator too, which tells what of the path is the key. Of the
other spots, a field begins without the mark, and what stands in an `$or`
begins with `$or[`.
-/

namespace DocFilter

/-! ## A path is read from the left -/

/-- The digits of a number tell the number. -/
theorem toDigits_inj {i j : Nat} (h : Nat.toDigits 10 i = Nat.toDigits 10 j) :
    i = j := by
  have hvalue := congrArg (fun ds => Nat.ofDigitChars 10 ds 0) h
  simpa using hvalue

/-- **A number is told apart from what follows it** by a closing bracket. -/
theorem position_append_inj {i j : Nat} {s t : String}
    (h : toString i ++ ("]" ++ s) = toString j ++ ("]" ++ t)) :
    i = j ∧ s = t := by
  have hdigits (n : Nat) (u : String) :
      (toString n ++ ("]" ++ u)).toList.takeWhile Char.isDigit
        = Nat.toDigits 10 n := by
    have hn : (toString n).toList = Nat.toDigits 10 n := Nat.toList_repr
    have hall : ∀ c ∈ Nat.toDigits 10 n, c.isDigit = true := fun c hc =>
      Nat.isDigit_of_mem_toDigits (by decide) (by decide) hc
    rw [String.toList_append, hn, List.takeWhile_append_of_pos hall,
      String.toList_append]
    exact List.append_nil _
  have hij : i = j := by
    have hi := hdigits i s
    rw [h, hdigits j t] at hi
    exact toDigits_inj hi.symm
  subst hij
  have hrest := (String.append_right_inj _).mp h
  exact ⟨rfl, (String.append_right_inj _).mp hrest⟩

namespace Report

/-- Two elements of one list, and what follows their paths in brackets. -/
theorem clausePath_append_inj {path : String} {i j : Nat} {s t : String}
    (h : clausePath path i ++ s = clausePath path j ++ t) :
    i = j ∧ s = t := by
  simp only [clausePath, String.append_assoc, String.append_right_inj] at h
  exact position_append_inj h

end Report

namespace Place

/-- Whether a text goes on like a path into an `$and`. -/
def GoesOn (s : String) : Prop := "$and".toList <+: s.toList

instance : DecidablePred GoesOn :=
  fun s => inferInstanceAs (Decidable ("$and".toList <+: s.toList))

/-- A path that leads into no `$and`. -/
theorem stem_nil_append (s : String) : stem [] ++ s = s :=
  String.empty_append

/-- A path that leads into an `$and` first. -/
theorem stem_cons_append (i : Nat) (is : List Nat) (s : String) :
    stem (i :: is) ++ s = conjunctStem i ++ (stem is ++ s) :=
  String.append_assoc ..

/-- The path into an element of an `$and` goes on like one. -/
theorem goesOn_conjunctStem (i : Nat) (s : String) :
    GoesOn (conjunctStem i ++ s) := by
  refine ⟨("[" ++ (toString i ++ ("]" ++ ("." ++ s)))).toList, ?_⟩
  rw [← String.toList_append]
  simp only [conjunctStem, Report.clausePath, String.append_assoc]

/-- The path into one element of an `$and` is not that into another. -/
theorem conjunctStem_append_inj {i j : Nat} {s t : String}
    (h : conjunctStem i ++ s = conjunctStem j ++ t) : i = j ∧ s = t := by
  rw [conjunctStem, conjunctStem, String.append_assoc,
    String.append_assoc] at h
  obtain ⟨hij, hst⟩ := Report.clausePath_append_inj h
  exact ⟨hij, (String.append_right_inj ".").mp hst⟩

/-- **A path is read from the left**: what leads into `$and`s and what comes
after it are told apart, unless that goes on in the same way. -/
theorem stem_append_inj {is js : List Nat} {s t : String}
    (hs : ¬GoesOn s) (ht : ¬GoesOn t) (h : stem is ++ s = stem js ++ t) :
    is = js ∧ s = t := by
  induction is generalizing js with
  | nil =>
    rw [stem_nil_append] at h
    cases js with
    | nil => exact ⟨rfl, h.trans (stem_nil_append t)⟩
    | cons j js =>
      rw [h, stem_cons_append] at hs
      exact absurd (goesOn_conjunctStem j _) hs
  | cons i is ih =>
    rw [stem_cons_append] at h
    cases js with
    | nil =>
      rw [← stem_nil_append t, ← h] at ht
      exact absurd (goesOn_conjunctStem i _) ht
    | cons j js =>
      rw [stem_cons_append] at h
      obtain ⟨rfl, hrest⟩ := conjunctStem_append_inj h
      obtain ⟨rfl, hst⟩ := ih hrest
      exact ⟨rfl, hst⟩

/-- The path into `$and`s tells the positions. -/
theorem stem_inj {is js : List Nat} (h : stem is = stem js) : is = js := by
  have hempty : ¬GoesOn "" := by decide
  refine (stem_append_inj hempty hempty ?_).1
  rw [h]

/-- One `$and` more inside others. -/
theorem stem_concat (is : List Nat) (i : Nat) :
    stem (is ++ [i]) = stem is ++ conjunctStem i := by
  induction is with
  | nil => exact String.append_empty.trans (stem_nil_append _).symm
  | cons j is ih => rw [List.cons_append, stem, ih, stem, String.append_assoc]

end Place

/-! ## What a place has to keep to -/

/-- **Why a test can be left out**: not for what a list of clauses lacks, and
for the lack of a list only if its tag joins no clauses. -/
structure TestReason (tag : Key) (reason : Reason) : Prop where
  not_needsDocument : reason ≠ .needsDocument
  not_noConnective : reason ≠ .noConnective
  of_needsList : reason = .needsList → tag.joinsClauses = false

/-- A test on a field is left out for such a reason. -/
theorem TestOutcome.testReason {path : String} {column tag : Key}
    {r : Outcome} {o : Omission} (h : TestOutcome path column tag r)
    (ho : r.omission? = some o) : TestReason tag o.reason := by
  cases h with
  | called hc | stopped f => exact nomatch ho
  | noCall =>
    obtain rfl := Option.some.inj ho
    exact ⟨nofun, nofun, nofun⟩
  | inWithoutList htag | notInWithoutList htag =>
    obtain rfl := Option.some.inj ho
    exact ⟨nofun, nofun, fun _ => htag ▸ rfl⟩

/-- A test in an `$or` is left out for such a reason. -/
theorem OrTestOutcome.testReason {path : String} {column tag : Key}
    {r : Outcome} {o : Omission} (h : OrTestOutcome path column tag r)
    (ho : r.omission? = some o) : TestReason tag o.reason := by
  cases h with
  | written hf => exact nomatch ho
  | notWritten =>
    obtain rfl := Option.some.inj ho
    exact ⟨nofun, nofun, nofun⟩
  | inWithoutList htag =>
    obtain rfl := Option.some.inj ho
    exact ⟨nofun, nofun, fun _ => htag ▸ rfl⟩

/-- **The spots there can be** where the keys of an `$or` are texts. -/
inductive Spot.Sound : Spot → Prop where
  | reserved (k : Key) : Sound (.reserved k)
  | test {s : String} {tag : Key} {r : Reason} (hs : isMarked s = false)
    (hr : TestReason tag r) : Sound (.test (.text s) tag r)
  | strayConjunct (i : Nat) : Sound (.strayConjunct i)
  | strayDisjunct (i : Nat) : Sound (.strayDisjunct i)
  | orTest (i : Nat) (s : String) {tag : Key} {r : Reason}
    (hr : TestReason tag r) : Sound (.orTest i (.text s) tag r)

/-- The spot of a test on a field without the mark. -/
theorem Spot.Sound.of_fieldReason? {s : String} {tag : Key}
    {operand : Value} {r : Reason} (hs : isMarked s = false)
    (h : Report.fieldReason? tag operand = some r) :
    Sound (.test (.text s) tag r) := by
  have ho : (Outcome.ofTest s (.text s) tag operand).omission?
      = some ⟨s, tag, r⟩ := by
    rw [Outcome.omission?_ofTest, h]
    rfl
  exact .test hs ((Outcome.testOutcome_ofTest ..).testReason ho)

/-- The spot of a test in an `$or`. -/
theorem Spot.Sound.of_fragmentReason? (i : Nat) {s : String} {tag : Key}
    {operand : Value} {r : Reason}
    (h : Report.fragmentReason? tag operand = some r) :
    Sound (.orTest i (.text s) tag r) := by
  have ho : (Outcome.ofOrTest s (.text s) tag operand).omission?
      = some ⟨s, tag, r⟩ := by
    rw [Outcome.omission?_ofOrTest, h]
    rfl
  exact .orTest i s ((Outcome.orTestOutcome_ofOrTest ..).testReason ho)

/-! ## A place can be told from its omission -/

namespace Spot

/-- Only a reserved key is left out as one. -/
theorem Sound.eq_reserved {k : Key} {q : Spot} (hq : q.Sound)
    (hop : q.operator = k)
    (hreason : q.reason = (Spot.reserved k).reason) :
    q = .reserved k := by
  cases hq with
  | reserved l => exact congrArg Spot.reserved hop
  | strayConjunct i | strayDisjunct i =>
    exfalso
    unfold reason at hreason
    dsimp only at hreason
    split at hreason <;> exact nomatch hreason
  | test hs hr | orTest i s hr =>
    exfalso
    obtain rfl := hop
    unfold reason at hreason
    dsimp only at hreason
    split at hreason
    · next hjoins =>
      exact nomatch (hr.of_needsList hreason).symm.trans hjoins
    · exact hr.not_noConnective hreason

/-- Only an element of a list is left out because it is no document. -/
theorem Sound.eq_stray {q : Spot} (hq : q.Sound)
    (hreason : q.reason = .needsDocument) :
    (∃ i, q = .strayConjunct i) ∨ ∃ i, q = .strayDisjunct i := by
  cases hq with
  | reserved k =>
    unfold reason at hreason
    dsimp only at hreason
    split at hreason <;> exact nomatch hreason
  | strayConjunct i => exact Or.inl ⟨i, rfl⟩
  | strayDisjunct i => exact Or.inr ⟨i, rfl⟩
  | test hs hr | orTest i s hr =>
    exact absurd hreason hr.not_needsDocument

/-- Its operator tells an element of an `$and`. -/
theorem Sound.eq_strayConjunct {q : Spot} (hq : q.Sound)
    (hop : q.operator = .text "$and") (hreason : q.reason = .needsDocument) :
    ∃ i, q = .strayConjunct i := by
  obtain h | ⟨i, rfl⟩ := hq.eq_stray hreason
  · exact h
  · exact absurd hop (show Key.text "$or" ≠ .text "$and" by decide)

/-- Its operator tells an element of an `$or`. -/
theorem Sound.eq_strayDisjunct {q : Spot} (hq : q.Sound)
    (hop : q.operator = .text "$or") (hreason : q.reason = .needsDocument) :
    ∃ i, q = .strayDisjunct i := by
  obtain ⟨i, rfl⟩ | h := hq.eq_stray hreason
  · exact absurd hop (show Key.text "$and" ≠ .text "$or" by decide)
  · exact h

/-- A path into an `$or` does not go on like one into an `$and`. -/
theorem not_goesOn_clausePath (i : Nat) (s : String) :
    ¬Place.GoesOn (Report.clausePath "$or" i ++ s) := by
  rintro ⟨rest, h⟩
  simp only [Report.clausePath, String.append_assoc, String.toList_append]
    at h
  have hsecond := (List.cons.inj (List.cons.inj h).2).1
  exact absurd hsecond (by decide)

/-- A field without the mark does not go on like a path into an `$and`. -/
theorem not_goesOn_of_not_isMarked {s : String} (hs : isMarked s = false) :
    ¬Place.GoesOn s := by
  rintro ⟨rest, h⟩
  rw [isMarked, ← h] at hs
  exact nomatch hs

/-- **The paths of spots are told apart from what leads to them**, but for
two kinds. -/
theorem Sound.kinds {p : Spot} (hp : p.Sound) :
    (∃ k, p = .reserved k) ∨ (∃ i, p = .strayConjunct i)
      ∨ ¬Place.GoesOn p.path := by
  cases hp with
  | reserved k => exact Or.inl ⟨k, rfl⟩
  | strayConjunct i => exact Or.inr (Or.inl ⟨i, rfl⟩)
  | test hs hr => exact Or.inr (Or.inr (not_goesOn_of_not_isMarked hs))
  | strayDisjunct i =>
    refine Or.inr (Or.inr ?_)
    have h := not_goesOn_clausePath i ""
    rwa [String.append_empty] at h
  | orTest i s hr =>
    refine Or.inr (Or.inr ?_)
    rw [path, String.append_assoc]
    exact not_goesOn_clausePath i _

/-- What is in an `$or` has a path that begins with the mark. -/
theorem ne_clausePath {s : String} (hs : isMarked s = false) (i : Nat)
    (t : String) : s ≠ Report.clausePath "$or" i ++ t := by
  rintro rfl
  have hmarked : isMarked (Report.clausePath "$or" i ++ t) = true := by
    simp only [isMarked, Report.clausePath, String.append_assoc,
      String.toList_append]
    rfl
  exact Bool.false_ne_true (hs.symm.trans hmarked)

/-- A field is not the path of a test in an `$or`. -/
theorem path_test_ne {s : String} {tag : Key} {r : Reason}
    (hs : isMarked s = false) (i : Nat) (t : String) (tag' : Key)
    (r' : Reason) :
    (test (.text s) tag r).path ≠ (orTest i (.text t) tag' r').path := by
  rw [path, path, String.append_assoc]
  exact ne_clausePath hs i _

/-- **A spot is what its omission says**, where the omission starts from the
document that the spot is in. -/
theorem Sound.eq_of_path {p q : Spot} (hp : p.Sound) (hq : q.Sound)
    (hpath : p.path = q.path) (hop : p.operator = q.operator)
    (hreason : p.reason = q.reason) : p = q := by
  cases hp with
  | reserved k => exact (hq.eq_reserved hop.symm hreason.symm).symm
  | strayConjunct i =>
    obtain ⟨j, rfl⟩ := hq.eq_strayConjunct hop.symm hreason.symm
    obtain ⟨rfl, -⟩ := Report.clausePath_append_inj
      (congrArg (· ++ "") hpath)
    rfl
  | strayDisjunct i =>
    obtain ⟨j, rfl⟩ := hq.eq_strayDisjunct hop.symm hreason.symm
    obtain ⟨rfl, -⟩ := Report.clausePath_append_inj
      (congrArg (· ++ "") hpath)
    rfl
  | test hs hr =>
    cases hq with
    | reserved k => exact Sound.eq_reserved (.test hs hr) hop hreason
    | strayConjunct j => exact absurd hreason hr.not_needsDocument
    | strayDisjunct j => exact absurd hreason hr.not_needsDocument
    | test ht hr' =>
      obtain rfl := hpath
      obtain rfl := hop
      obtain rfl := hreason
      rfl
    | orTest j t hr' => exact absurd hpath (path_test_ne hs j t _ _)
  | orTest i s hr =>
    cases hq with
    | reserved k => exact Sound.eq_reserved (.orTest i s hr) hop hreason
    | strayConjunct j => exact absurd hreason hr.not_needsDocument
    | strayDisjunct j => exact absurd hreason hr.not_needsDocument
    | test ht hr' => exact absurd hpath.symm (path_test_ne ht i s _ _)
    | orTest j t hr' =>
      simp only [path, String.append_assoc] at hpath
      obtain ⟨rfl, hst⟩ := Report.clausePath_append_inj hpath
      obtain rfl := (String.append_right_inj ".").mp hst
      obtain rfl := hop
      obtain rfl := hreason
      rfl

end Spot

namespace Place

/-- A reserved key can be told, whatever it is called. -/
theorem eq_of_reserved {is js : List Nat} {k : Key} {q : Spot}
    (hq : q.Sound) (hpath : path ⟨is, .reserved k⟩ = path ⟨js, q⟩)
    (hop : q.operator = k) (hreason : q.reason = (Spot.reserved k).reason) :
    is = js ∧ q = .reserved k := by
  obtain rfl := hq.eq_reserved hop hreason
  exact ⟨stem_inj ((String.append_left_inj _).mp hpath), rfl⟩

/-- An element of an `$and` that is no document can be told: its path has
the length of one into an `$and` more. -/
theorem eq_of_strayConjunct {is js : List Nat} {i : Nat} {q : Spot}
    (hq : q.Sound) (hpath : path ⟨is, .strayConjunct i⟩ = path ⟨js, q⟩)
    (hop : q.operator = .text "$and") (hreason : q.reason = .needsDocument) :
    is = js ∧ q = .strayConjunct i := by
  obtain ⟨j, rfl⟩ := hq.eq_strayConjunct hop hreason
  -- With a dot behind them, both paths lead into an `$and` more.
  have hstem : stem (is ++ [i]) = stem (js ++ [j]) := by
    rw [stem_concat, stem_concat, conjunctStem, conjunctStem,
      ← String.append_assoc, ← String.append_assoc]
    exact congrArg (· ++ ".") hpath
  obtain ⟨rfl, hij⟩ := List.append_inj' (stem_inj hstem) rfl
  obtain rfl := List.singleton_inj.mp hij
  exact ⟨rfl, rfl⟩

/-- **A place is what its omission says**, where the keys of `$or`s are
texts. -/
theorem omission_inj {p q : Place} (hp : p.spot.Sound) (hq : q.spot.Sound)
    (h : p.omission "" = q.omission "") : p = q := by
  obtain ⟨is, x⟩ := p
  obtain ⟨js, y⟩ := q
  simp only [omission, String.empty_append, Omission.mk.injEq] at h
  obtain ⟨hpath, hop, hreason⟩ := h
  -- The path is cut from the left only where neither spot goes on like one
  -- into an `$and`; the two other kinds are told by operator and reason.
  have hxy : is = js ∧ x = y := by
    obtain ⟨k, rfl⟩ | ⟨i, rfl⟩ | hx := hp.kinds
    · obtain ⟨rfl, rfl⟩ := eq_of_reserved hq hpath hop.symm hreason.symm
      exact ⟨rfl, rfl⟩
    · obtain ⟨rfl, rfl⟩ := eq_of_strayConjunct hq hpath hop.symm hreason.symm
      exact ⟨rfl, rfl⟩
    · obtain ⟨k, rfl⟩ | ⟨i, rfl⟩ | hy := hq.kinds
      · obtain ⟨rfl, rfl⟩ := eq_of_reserved hp hpath.symm hop hreason
        exact ⟨rfl, rfl⟩
      · obtain ⟨rfl, rfl⟩ := eq_of_strayConjunct hp hpath.symm hop hreason
        exact ⟨rfl, rfl⟩
      · obtain ⟨rfl, hspot⟩ := stem_append_inj hx hy hpath
        exact ⟨rfl, hp.eq_of_path hq hspot hop hreason⟩
  rw [hxy.1, hxy.2]

end Place

end DocFilter
