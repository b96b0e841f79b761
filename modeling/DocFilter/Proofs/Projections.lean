import DocFilter.Projection
import DocFilter.Proofs.CompositeText
import DocFilter.Proofs.WholeNumbers

/-!
# The shapes of a projection agree

A projection may be a sequence of columns or a document that says of each
column whether to include it, and the two are written by different routes: a
document is written even if it includes nothing, and only then does its text
turn into the text for every column, while a sequence is looked at before it
is written. They agree all the same. What is written of a document is what is
written of the sequence of the columns it includes
(`Projection.columns_doc`), up to the empty text – and that is the text of no
column, unless the empty text is one (`Disjunction.intercalate_ne_empty`).

Either way the values to be written are names followed by nothing, or names
followed by something that is no name (`Projection.names_or_other`); the
first case gives a text and the second a fault that tells the place.

The main statement is `Projection.shapes_agree`.
-/

namespace DocFilter

namespace Projection

/-! ## Writing names -/

/-- Names are written as they are. -/
theorem names_map_text (position : Nat) (ss : List String) :
    names position (ss.map .text) = .ok ss := by
  induction ss generalizing position with
  | nil => rfl
  | cons s ss ih =>
    show (names (position + 1) (ss.map .text)).map (s :: ·) = _
    rw [ih]
    rfl

/-- **The first value that is no text** is the fault, at its place. -/
theorem names_append_cons {v : Value} (h : v.kind ≠ .text)
    (position : Nat) (ss : List String) (rest : List Value) :
    names position (ss.map .text ++ v :: rest)
      = .error (.notColumn (position + ss.length) v.kind) := by
  induction ss generalizing position with
  | nil =>
    cases v with
    | atom a =>
      cases a with
      | text s => exact absurd rfl h
      | _ => rfl
    | _ => rfl
  | cons s ss ih =>
    show (names (position + 1) (ss.map .text ++ v :: rest)).map (s :: ·) = _
    rw [ih, List.length_cons, Nat.add_assoc, Nat.add_comm 1]
    rfl

/-- A text is known by its kind. -/
theorem exists_text_of_kind {v : Value} (h : v.kind = .text) :
    ∃ s, v = .text s := by
  cases v with
  | atom a =>
    cases a with
    | text s => exact ⟨s, rfl⟩
    | _ => exact nomatch h
  | seq form vs => cases form <;> exact nomatch h
  | doc ms => exact nomatch h

/-- **Values are names**, or names up to the first that is none. -/
theorem names_or_other (vs : List Value) :
    (∃ ss : List String, vs = ss.map .text)
      ∨ ∃ (ss : List String) (v : Value) (rest : List Value),
        vs = ss.map .text ++ v :: rest ∧ v.kind ≠ .text := by
  induction vs with
  | nil => exact .inl ⟨[], rfl⟩
  | cons v vs ih =>
    by_cases h : v.kind = .text
    · obtain ⟨s, rfl⟩ := exists_text_of_kind h
      obtain ⟨ss, rfl⟩ | ⟨ss, w, rest, rfl, hw⟩ := ih
      · exact .inl ⟨s :: ss, rfl⟩
      · exact .inr ⟨s :: ss, w, rest, rfl, hw⟩
    · exact .inr ⟨[], v, vs, rfl, h⟩

theorem join_map_text (ss : List String) :
    join (ss.map .text) = .ok (",".intercalate ss) := by
  rw [join, names_map_text]
  rfl

theorem join_append_cons {v : Value} (h : v.kind ≠ .text)
    (ss : List String) (rest : List Value) :
    join (ss.map .text ++ v :: rest)
      = .error (.notColumn ss.length v.kind) := by
  rw [join, names_append_cons h, Nat.zero_add]
  rfl

/-! ## Sequences and documents -/

/-- A sequence that is not empty is joined. -/
theorem columns_seq_of_ne_nil (form : SeqForm) {vs : List Value}
    (h : vs ≠ []) : columns (.seq form vs) = join vs := by
  cases vs with
  | nil => exact absurd rfl h
  | cons v vs => rfl

/-- **A document is written by what it includes**, with every column in place
of the empty text. -/
theorem columns_doc (ms : List (Key × Value)) :
    columns (.doc ms) = (join (included ms)).map orEverything := by
  cases ms with
  | nil => rfl
  | cons m ms => rfl

/-- **Both shapes agree**: a document without an empty column is written as
the sequence of the columns it includes. -/
theorem columns_doc_eq_columns_seq {ms : List (Key × Value)}
    (h : ∀ m ∈ ms, m.1 ≠ .text "") (form : SeqForm) :
    columns (.doc ms) = columns (.seq form (included ms)) := by
  rw [columns_doc]
  by_cases hnil : included ms = []
  · rw [hnil]
    rfl
  rw [columns_seq_of_ne_nil form hnil]
  obtain ⟨ss, hss⟩ | ⟨ss, v, rest, hss, hv⟩ := names_or_other (included ms)
  · have hne : ∀ s ∈ ss, s ≠ "" := by
      rintro s hs rfl
      have hmem : Value.text "" ∈ included ms :=
        hss ▸ List.mem_map_of_mem hs
      obtain ⟨m, hm, hkey⟩ := List.mem_map.mp hmem
      refine h m (List.mem_filter.mp hm).1 ?_
      exact Except.ok.inj ((Key.toKey_toValue m.1).symm.trans
        (congrArg Value.toKey hkey))
    have htext : ",".intercalate ss ≠ "" := by
      refine Disjunction.intercalate_ne_empty (fun hempty => hnil ?_) hne
      rw [hss, hempty]
      rfl
    rw [hss, join_map_text]
    exact congrArg Except.ok (if_neg htext)
  · rw [hss, join_append_cons hv]
    rfl

/-- **When a document cannot be written**: one of the columns it includes is
no text, and the first such is named by its place. -/
theorem columns_doc_eq_error_iff {ms : List (Key × Value)} {f : Fault} :
    columns (.doc ms) = .error f
      ↔ ∃ (ss : List String) (v : Value) (rest : List Value),
        included ms = ss.map .text ++ v :: rest ∧ v.kind ≠ .text
          ∧ f = .notColumn ss.length v.kind := by
  rw [columns_doc]
  constructor
  · intro herror
    obtain ⟨ss, hss⟩ | ⟨ss, v, rest, hss, hv⟩ := names_or_other (included ms)
    · rw [hss, join_map_text] at herror
      exact nomatch herror
    · rw [hss, join_append_cons hv] at herror
      exact ⟨ss, v, rest, hss, hv, (Except.error.inj herror).symm⟩
  · rintro ⟨ss, v, rest, hss, hv, rfl⟩
    rw [hss, join_append_cons hv]
    rfl

/-- **The shapes of a projection agree, and it can be read back.**

* A list or tuple of column names without commas, split at the commas of its
  text, is the list of these names again.
* What equals one is the integer, the truth value and the float, and nothing
  else.
* A document without an empty column is written as the list, or the tuple, of
  the columns whose value equals one, in their order: every column if there
  is none; their names, if all are texts; and if not, a fault in either case
  that tells the place of the first that is none. -/
theorem shapes_agree :
    (∀ (form : SeqForm) (ss : List String), ss ≠ [] →
        (∀ s ∈ ss, ',' ∉ s.toList) →
        ∃ text, columns (.seq form (ss.map .text)) = .ok text
          ∧ (text.split ',').toList.map (·.copy) = ss)
      ∧ (∀ v : Value, v.equals (.int 1) = true
        ↔ v = .int 1 ∨ v = .bool true ∨ v = .float Binary64.one)
      ∧ ∀ ms : List (Key × Value), (∀ m ∈ ms, m.1 ≠ .text "") →
        let chosen := (ms.filter fun m => m.2.equals (.int 1)).map
          fun m => m.1.toValue
        (∀ form, columns (.doc ms) = columns (.seq form chosen))
          ∧ (chosen = [] → columns (.doc ms) = .ok "*")
          ∧ (∀ ss : List String, ss ≠ [] → chosen = ss.map .text →
            columns (.doc ms) = .ok (",".intercalate ss))
          ∧ ∀ f, columns (.doc ms) = .error f
            ↔ ∃ (ss : List String) (v : Value) (rest : List Value),
              chosen = ss.map .text ++ v :: rest ∧ v.kind ≠ .text
                ∧ f = .notColumn ss.length v.kind := by
  refine ⟨fun form ss hne hcommas => ?_, fun v => Value.isOne_iff,
    fun ms hms => ?_⟩
  · have hvalues : ss.map Value.text ≠ [] := fun h =>
      hne (List.map_eq_nil_iff.mp h)
    refine ⟨_, (columns_seq_of_ne_nil form hvalues).trans (join_map_text ss),
      ?_⟩
    have hsplit := String.toList_split_intercalate hcommas
    rw [if_neg hne] at hsplit
    exact hsplit
  · intro chosen
    have hagree (form : SeqForm) :
        columns (.doc ms) = columns (.seq form chosen) :=
      columns_doc_eq_columns_seq hms form
    refine ⟨hagree, fun hnil => ?_, fun ss hne hss => ?_,
      fun f => columns_doc_eq_error_iff⟩
    · rw [hagree .list, hnil]
      rfl
    · have hvalues : ss.map Value.text ≠ [] := fun h =>
        hne (List.map_eq_nil_iff.mp h)
      rw [hagree .list, hss, columns_seq_of_ne_nil .list hvalues,
        join_map_text]

/-- A document that includes three columns, by a float, a truth value and an
integer, the second of which is no text; and two names that are read back. -/
theorem shapes_agree_mixed :
    let ms : List (Key × Value) := [(.text "a", .float Binary64.one),
      (.text "b", .int 0), (.atom (.int 7), .bool true),
      (.text "c", .int 1)]
    let names := ["id", "full name"]
    (∀ m ∈ ms, m.1 ≠ .text "")
      ∧ columns (.doc ms)
        = columns (.seq .tuple [.text "a", .int 7, .text "c"])
      ∧ columns (.doc ms) = .error (.notColumn 1 .int)
      ∧ names ≠ [] ∧ (∀ s ∈ names, ',' ∉ s.toList)
      ∧ ∃ text, columns (.list (names.map .text)) = .ok text
        ∧ (text.split ',').toList.map (·.copy) = names := by
  intro ms names
  have hkeys : ∀ m ∈ ms, m.1 ≠ .text "" := by decide
  have hcommas : ∀ s ∈ names, ',' ∉ s.toList := by decide
  obtain ⟨hread, -, hdocument⟩ := shapes_agree
  obtain ⟨hagree, -, -, herror⟩ := hdocument ms hkeys
  exact ⟨hkeys, hagree .tuple,
    (herror _).mpr ⟨["a"], .int 7, [.text "c"], rfl, by decide, rfl⟩,
    List.cons_ne_nil _ _, hcommas, hread .list names (List.cons_ne_nil _ _)
      hcommas⟩

end Projection

end DocFilter
