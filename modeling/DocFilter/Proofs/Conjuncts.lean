import DocFilter.Builder
import DocFilter.Filter.Document

/-!
# An `$and` leaves no trace

A builder joins its calls by *and* already, so an `$and` asks for nothing
of its own: its elements stand where it stood. A document can therefore be
taken apart into its **conjuncts** – one document for each member, in order,
with every list of an `$and` spliced in at any depth – and the `$and` of
these asks for what the document asked for.

The two are the same script (`Filter.clausesScript_conjuncts`), so they run
alike on every builder, whatever it refuses: the same calls on the same
generations, the same notes, and the same builder or the same fault in the
end. Nothing is asked of the keys. An element that is no document is a
conjunct as it is, and leaves its note at its place.

That an `$and` can be put around a document, or around its members one by
one, and that one `$and` can be spliced into another, are the same law in
smaller steps (`Filter.and_transparent`).
-/

namespace DocFilter

namespace Filter

mutual

/-- **The conjuncts of the members of a document.** -/
def conjuncts : List (Key × Value) → List Value
  | [] => []
  | (k, v) :: ms => memberConjuncts k v ++ conjuncts ms

/-- The conjuncts of one member: those of its elements if it is an `$and`
with a list, and else the member in a document of its own. -/
def memberConjuncts (k : Key) : Value → List Value
  | .seq f cs =>
    match k.operator? with
    | some .and => clausesConjuncts cs
    | _ => [.doc [(k, .seq f cs)]]
  | v => [.doc [(k, v)]]

/-- The conjuncts of the elements of an `$and`. -/
def clausesConjuncts : List Value → List Value
  | [] => []
  | c :: cs => clauseConjuncts c ++ clausesConjuncts cs

/-- The conjuncts of one element. What is no document stays as it is. -/
def clauseConjuncts : Value → List Value
  | .doc ms => conjuncts ms
  | v => [v]

end

/-- **What is not taken apart any further.** -/
inductive Conjunct : Value → Prop where
  /-- One member that is no `$and` with a list. -/
  | member (k : Key) (v : Value)
    (h : ¬(k = .text "$and" ∧ v.isSeq = true)) : Conjunct (.doc [(k, v)])
  /-- An element that is no document. -/
  | stray (v : Value) (h : ∀ ms, v ≠ .doc ms) : Conjunct v

/-- The document with an `$and` and nothing else. -/
def allOf (f : SeqForm) (cs : List Value) : Value :=
  .doc [(.text Operator.and.tag, .seq f cs)]

/-! ## The conjuncts ask for the same -/

/-- The script of an `$and` alone is that of its elements. -/
theorem script_allOf (f : SeqForm) (cs : List Value) :
    script (allOf f cs) = clausesScript cs :=
  Trail.append_empty (clausesScript cs)

/-- Elements ask for what they ask for, one list after another. -/
theorem clausesScript_append (cs ds : List Value) :
    clausesScript (cs ++ ds) = clausesScript cs ++ clausesScript ds := by
  induction cs with
  | nil => rfl
  | cons c cs ih =>
    rw [List.cons_append, clausesScript, ih, clausesScript,
      Trail.append_assoc]

/-- One element asks for what it asks for by itself. -/
theorem clausesScript_singleton (c : Value) :
    clausesScript [c] = clauseScript c :=
  Trail.append_empty (clauseScript c)

/-- A document of one member asks for what the member asks for. -/
theorem clausesScript_member (k : Key) (v : Value) :
    clausesScript [.doc [(k, v)]] = memberScript k v := by
  rw [clausesScript_singleton]
  exact Trail.append_empty (memberScript k v)

mutual

/-- **The conjuncts of a document ask for what the document asks for.** -/
theorem clausesScript_conjuncts : (ms : List (Key × Value)) →
    clausesScript (conjuncts ms) = membersScript ms
  | [] => rfl
  | (k, v) :: ms => by
    rw [conjuncts, clausesScript_append, clausesScript_memberConjuncts k v,
      clausesScript_conjuncts ms, membersScript]

theorem clausesScript_memberConjuncts (k : Key) : (v : Value) →
    clausesScript (memberConjuncts k v) = memberScript k v
  | .seq f cs => by
    unfold memberConjuncts
    split
    · next h =>
      rw [clausesScript_clausesConjuncts cs, memberScript, h]
    · exact clausesScript_member k (.seq f cs)
  | .atom a => clausesScript_member k (.atom a)
  | .doc ms => clausesScript_member k (.doc ms)

theorem clausesScript_clausesConjuncts : (cs : List Value) →
    clausesScript (clausesConjuncts cs) = clausesScript cs
  | [] => rfl
  | c :: cs => by
    rw [clausesConjuncts, clausesScript_append,
      clausesScript_clauseConjuncts c, clausesScript_clausesConjuncts cs,
      clausesScript]

theorem clausesScript_clauseConjuncts : (c : Value) →
    clausesScript (clauseConjuncts c) = clauseScript c
  | .doc ms => clausesScript_conjuncts ms
  | .atom a => clausesScript_singleton (.atom a)
  | .seq f vs => clausesScript_singleton (.seq f vs)

end

/-- The members of a document, each in a document of its own, ask for what
the document asks for. -/
theorem clausesScript_map_singleton (ms : List (Key × Value)) :
    clausesScript (ms.map fun m => .doc [m]) = membersScript ms := by
  induction ms with
  | nil => rfl
  | cons m ms ih =>
    rw [List.map_cons, ← List.singleton_append, clausesScript_append, ih,
      clausesScript_member m.1 m.2, membersScript]

/-- **An `$and` among the elements of another** asks for what its own
elements ask for in its place. -/
theorem script_allOf_splice (f g : SeqForm) (cs ds es : List Value) :
    script (allOf f (cs ++ allOf g ds :: es))
      = script (allOf f (cs ++ ds ++ es)) := by
  have hinner : clauseScript (allOf g ds) = clausesScript ds :=
    script_allOf g ds
  rw [script_allOf, script_allOf, clausesScript_append, clausesScript,
    hinner, clausesScript_append, clausesScript_append, Trail.append_assoc]

/-! ## The conjuncts are not taken apart any further -/

mutual

theorem conjunct_of_mem : (ms : List (Key × Value)) →
    ∀ c ∈ conjuncts ms, Conjunct c
  | [] => fun _ hc => absurd hc List.not_mem_nil
  | (k, v) :: ms => fun c hc =>
    (List.mem_append.mp hc).elim (conjunct_of_mem_member k v c)
      (conjunct_of_mem ms c)

theorem conjunct_of_mem_member (k : Key) : (v : Value) →
    ∀ c ∈ memberConjuncts k v, Conjunct c
  | .seq f cs => by
    unfold memberConjuncts
    split
    · exact conjunct_of_mem_clauses cs
    · next h =>
      intro c hc
      obtain rfl := List.mem_singleton.mp hc
      -- The tag alone finds the operator, so another key is not `$and`.
      refine .member k (.seq f cs) fun ⟨hk, _⟩ => h ?_
      rw [hk]
      rfl
  | .atom a => fun c hc => by
    obtain rfl := List.mem_singleton.mp hc
    exact .member k (.atom a) fun ⟨_, hseq⟩ => nomatch hseq
  | .doc ms => fun c hc => by
    obtain rfl := List.mem_singleton.mp hc
    exact .member k (.doc ms) fun ⟨_, hseq⟩ => nomatch hseq

theorem conjunct_of_mem_clauses : (cs : List Value) →
    ∀ c ∈ clausesConjuncts cs, Conjunct c
  | [] => fun _ hc => absurd hc List.not_mem_nil
  | c :: cs => fun d hd =>
    (List.mem_append.mp hd).elim (conjunct_of_mem_clause c d)
      (conjunct_of_mem_clauses cs d)

theorem conjunct_of_mem_clause : (c : Value) →
    ∀ d ∈ clauseConjuncts c, Conjunct d
  | .doc ms => conjunct_of_mem ms
  | .atom a => fun d hd => by
    obtain rfl := List.mem_singleton.mp hd
    exact .stray (.atom a) fun _ h => nomatch h
  | .seq f vs => fun d hd => by
    obtain rfl := List.mem_singleton.mp hd
    exact .stray (.seq f vs) fun _ h => nomatch h

end

/-! ## Runs -/

/-- **An `$and` is transparent.** On any builder and under any refusals, a
document runs as the `$and` of its conjuncts does, and none of these can be
taken apart further. So it does with an `$and` around it, and with its
members in an `$and` one by one; and an `$and` inside an `$and` runs as its
elements do where it stands. -/
theorem and_transparent (ms : List (Key × Value)) (refuses : Refusals)
    (b : Builder) :
    (script (allOf .list (conjuncts ms))).run refuses b
        = (script (.doc ms)).run refuses b
      ∧ (∀ c ∈ conjuncts ms, Conjunct c)
      ∧ (∀ f, (script (allOf f [.doc ms])).run refuses b
        = (script (.doc ms)).run refuses b)
      ∧ (∀ f, (script (allOf f (ms.map fun m => .doc [m]))).run refuses b
        = (script (.doc ms)).run refuses b)
      ∧ ∀ f g cs ds es,
        (script (allOf f (cs ++ allOf g ds :: es))).run refuses b
          = (script (allOf f (cs ++ ds ++ es))).run refuses b := by
  refine ⟨?_, conjunct_of_mem ms, fun f => ?_, fun f => ?_,
    fun f g cs ds es => ?_⟩
  · rw [script_allOf, clausesScript_conjuncts]
    rfl
  · rw [script_allOf, clausesScript_singleton]
    rfl
  · rw [script_allOf, clausesScript_map_singleton]
    rfl
  · rw [script_allOf_splice]

-- A nested `$and`, a stray element and a key that is no text.
example : conjuncts
    [(.text "a", .int 1),
     (.text "$and", .seq .tuple
       [.doc [(.text "$and", .list [.doc [(.text "b", .null)]])], .int 7]),
     (.atom (.int 3), .null)]
    = [.doc [(.text "a", .int 1)], .doc [(.text "b", .null)], .int 7,
       .doc [(.atom (.int 3), .null)]] := by decide

end Filter

end DocFilter
