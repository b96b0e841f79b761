import DocFilter.Disjunction

/-!
# The text of a disjunction is one flat list

An `$or` is written in three joins, one inside the other: the tests of a
field, the fields of a clause, the clauses. Parts without a fragment are
left out at each level, so that no comma stands alone.

The nesting leaves no trace. A join that leaves out what is empty puts a
comma exactly between two parts that are not (`Disjunction.withComma`),
which is associative with the empty text as its unit; hence a join of joins
is the join of everything (`Disjunction.joinNonempty_flatten`), and the text
of an `$or` is its fragments, in order, with commas between them
(`Disjunction.text_eq_intercalate`). No fragment is itself empty, because
each holds two dots, so none of them is left out.
-/

namespace DocFilter

/-- A fragment is never the empty text. -/
theorem Fragment.text_ne_empty (f : Fragment) : f.text ≠ "" := by
  intro h
  have hlen := congrArg String.length h
  unfold Fragment.text at hlen
  simp [String.length_append] at hlen

namespace Disjunction

/-! ## Joining what is not empty -/

/-- Two texts with a comma between them, or the one that is not empty. -/
def withComma (a b : String) : String :=
  if a = "" then b else if b = "" then a else a ++ "," ++ b

@[simp] theorem empty_withComma (a : String) : withComma "" a = a := rfl

@[simp] theorem withComma_empty (a : String) : withComma a "" = a := by
  unfold withComma
  by_cases h : a = "" <;> simp [h]

/-- Between two texts that are not empty stands a comma. -/
theorem withComma_of_ne_empty {a b : String} (ha : a ≠ "") (hb : b ≠ "") :
    withComma a b = a ++ "," ++ b := by
  rw [withComma, if_neg ha, if_neg hb]

/-- Where a comma is put does not depend on how the parts are grouped. -/
theorem withComma_assoc (a b c : String) :
    withComma (withComma a b) c = withComma a (withComma b c) := by
  by_cases ha : a = ""
  · rw [ha, empty_withComma, empty_withComma]
  by_cases hb : b = ""
  · rw [hb, withComma_empty, empty_withComma]
  by_cases hc : c = ""
  · rw [hc, withComma_empty, withComma_empty]
  have hab : a ++ "," ++ b ≠ "" := by simp [ha]
  have hbc : b ++ "," ++ c ≠ "" := by simp [hb]
  rw [withComma_of_ne_empty ha hb, withComma_of_ne_empty hb hc,
    withComma_of_ne_empty hab hc, withComma_of_ne_empty ha hbc]
  simp only [String.append_assoc]

/-- Texts that are not empty are joined with nothing left out. -/
theorem joinNonempty_of_ne_empty {xs : List String} (h : ∀ x ∈ xs, x ≠ "") :
    joinNonempty xs = ",".intercalate xs := by
  unfold joinNonempty
  rw [List.filter_eq_self.mpr fun x hx => by simpa using h x hx]

/-- A join is empty only if nothing is joined. -/
theorem joinNonempty_eq_empty_iff {xs : List String} :
    joinNonempty xs = "" ↔ xs.filter (· != "") = [] := by
  unfold joinNonempty
  constructor
  · intro h
    cases hf : xs.filter (· != "") with
    | nil => rfl
    | cons y ys =>
      have hy : y ≠ "" := by
        have hmem : y ∈ xs.filter (· != "") := by
          rw [hf]
          exact List.mem_cons_self ..
        simpa using (List.mem_filter.mp hmem).2
      rw [hf] at h
      cases ys with
      | nil => exact absurd (by simpa using h) hy
      | cons z zs =>
        rw [String.intercalate_cons_cons] at h
        simp at h
  · intro h
    rw [h]
    exact String.intercalate_nil

/-- A join of something is empty only if an empty text is joined. -/
theorem intercalate_ne_empty {xs : List String} (hne : xs ≠ [])
    (h : ∀ x ∈ xs, x ≠ "") : ",".intercalate xs ≠ "" := by
  rw [← joinNonempty_of_ne_empty h]
  intro hempty
  obtain ⟨x, hx⟩ := List.exists_mem_of_ne_nil xs hne
  have hnil := joinNonempty_eq_empty_iff.mp hempty
  exact List.filter_eq_nil_iff.mp hnil x hx (bne_iff_ne.mpr (h x hx))

/-- A join puts a comma after its first part, if there is something on
either side of it. -/
theorem joinNonempty_cons (x : String) (xs : List String) :
    joinNonempty (x :: xs) = withComma x (joinNonempty xs) := by
  by_cases hx : x = ""
  · subst hx
    rfl
  have hfil : (x :: xs).filter (· != "") = x :: xs.filter (· != "") :=
    List.filter_cons_of_pos (by simpa using hx)
  by_cases hxs : joinNonempty xs = ""
  · -- Nothing but empty texts follows, and no comma for them.
    rw [hxs, withComma_empty]
    unfold joinNonempty
    rw [hfil, joinNonempty_eq_empty_iff.mp hxs, String.intercalate_singleton]
  · have hne : xs.filter (· != "") ≠ [] :=
      fun h => hxs (joinNonempty_eq_empty_iff.mpr h)
    rw [withComma_of_ne_empty hx hxs]
    unfold joinNonempty
    rw [hfil, String.intercalate_cons_of_ne_nil hne]

/-- The join of two lists. -/
theorem joinNonempty_append (xs ys : List String) :
    joinNonempty (xs ++ ys)
      = withComma (joinNonempty xs) (joinNonempty ys) := by
  induction xs with
  | nil => rfl
  | cons x xs ih =>
    rw [List.cons_append, joinNonempty_cons, ih, joinNonempty_cons,
      withComma_assoc]

/-- **A join of joins is the join of everything.** -/
theorem joinNonempty_flatten (xss : List (List String)) :
    joinNonempty (xss.map joinNonempty) = joinNonempty xss.flatten := by
  induction xss with
  | nil => rfl
  | cons xs xss ih =>
    rw [List.map_cons, joinNonempty_cons, ih, List.flatten_cons,
      joinNonempty_append]

/-! ## Fragments of parts -/

theorem fragmentsOf_flatMap {α : Type} (as : List α)
    (g : α → List (Except Note Fragment)) :
    fragmentsOf (as.flatMap g) = as.flatMap fun a => fragmentsOf (g a) :=
  List.filterMap_flatMap

/-- The texts of the parts of a list, joined, are the texts of all their
fragments, joined. -/
theorem joinNonempty_map_fragments {α : Type} (as : List α)
    (g : α → List (Except Note Fragment)) :
    joinNonempty (as.map fun a =>
        joinNonempty ((fragmentsOf (g a)).map Fragment.text))
      = joinNonempty ((fragmentsOf (as.flatMap g)).map Fragment.text) := by
  rw [fragmentsOf_flatMap, List.map_flatMap, List.flatMap_def,
    ← joinNonempty_flatten, List.map_map]
  rfl

/-- The text of an element joins the texts of its fragments. -/
theorem elementText_eq (v : Value) :
    elementText v
      = joinNonempty ((fragmentsOf (elementOutcomes v)).map
          Fragment.text) := by
  cases v with
  | doc ms =>
    exact joinNonempty_map_fragments ms
      fun m => fieldOutcomes m.1.toValue m.2
  | atom a => rfl
  | seq f vs => rfl

/-- **The text of an `$or` is the flat list of its fragments**, with commas
between them and nowhere else. -/
theorem text_eq_intercalate (clauses : List Value) :
    text clauses = ",".intercalate ((fragments clauses).map Fragment.text) := by
  have hmap : clauses.map elementText
      = clauses.map fun c =>
          joinNonempty ((fragmentsOf (elementOutcomes c)).map Fragment.text) :=
    List.map_congr_left fun c _ => elementText_eq c
  rw [text, hmap, joinNonempty_map_fragments]
  -- What is left is one join, in which nothing is left out.
  refine joinNonempty_of_ne_empty fun x hx => ?_
  obtain ⟨f, -, rfl⟩ := List.mem_map.mp hx
  exact f.text_ne_empty

end Disjunction

end DocFilter
