import Mathlib.Data.List.Nodup
import DocFilter.Proofs.Keys
import DocFilter.Proofs.Wording

/-!
# No omission is reported twice

Two omissions of one document differ in their path, their operator or their
reason, whatever its fields and its tags are called
(`Filter.omissions_distinct`).

An omission tells the place it stands at. What is left is that no two
omissions stand at one place (`Place.distinguished_ofMembers`): two members
of a document have two keys, two elements of a list have two positions, and
two tests on a field have two tags. That is all that is asked of the
documents in a filter, `Filter.documents`: that their keys are texts, no two
of one document alike.
-/

namespace DocFilter

namespace Key

/-- The mark can be looked for in a text alone. -/
theorem exists_text_of_hasMark {k : Key} {marked : Bool}
    (h : k.hasMark = .ok marked) :
    ∃ s, k = .text s ∧ DocFilter.isMarked s = marked := by
  cases k with
  | tuple ks => exact nomatch h
  | atom a =>
    cases a with
    | text s => exact ⟨s, rfl, Except.ok.inj h⟩
    | _ => exact nomatch h

/-- A key that has a text is one. -/
theorem exists_text_of_isSome {k : Key} (h : k.text?.isSome = true) :
    ∃ s, k = .text s := by
  unfold text? at h
  split at h
  · exact ⟨_, rfl⟩
  · exact nomatch h

end Key

/-! ## The documents in a filter -/

/-- **The keys of a document are texts, no two of them alike.** -/
def DistinctTexts (ms : List (Key × Value)) : Prop :=
  (∀ m ∈ ms, m.1.text?.isSome = true) ∧ (ms.map Prod.fst).Nodup

instance : DecidablePred DistinctTexts := fun ms =>
  inferInstanceAs (Decidable (_ ∧ (ms.map Prod.fst).Nodup))

namespace Filter

/-- The operator document that a condition on a field is, if it is one. -/
def testDocuments (v : Value) : List (List (Key × Value)) :=
  match v.condition with
  | .plain _ => []
  | .operators ts => [ts]

/-- The documents at a member that joins no clauses: there are some only if
it is a field. -/
def otherDocuments (k : Key) (v : Value) : List (List (Key × Value)) :=
  if k.isMarked then [] else testDocuments v

/-- The documents in an element of an `$or`. -/
def orElementDocuments : Value → List (List (Key × Value))
  | .doc ms => ms :: ms.flatMap fun (_, v) => testDocuments v
  | _ => []

mutual

/-- The documents in the members of a document. -/
def membersDocuments : List (Key × Value) → List (List (Key × Value))
  | [] => []
  | (k, v) :: ms => memberDocuments k v ++ membersDocuments ms

/-- The documents in one member. -/
def memberDocuments (k : Key) : Value → List (List (Key × Value))
  | .seq f cs =>
    match k.operator? with
    | some .and => clausesDocuments cs
    | some .or => cs.flatMap orElementDocuments
    | _ => otherDocuments k (.seq f cs)
  | v => otherDocuments k v

/-- The documents in the elements of an `$and`. -/
def clausesDocuments : List Value → List (List (Key × Value))
  | [] => []
  | c :: cs => clauseDocuments c ++ clausesDocuments cs

/-- The documents in one element of an `$and`. -/
def clauseDocuments : Value → List (List (Key × Value))
  | .doc ms => ms :: membersDocuments ms
  | _ => []

end

/-- **The documents of a filter**: the filter itself, the documents in the
lists of its `$and`s and `$or`s, and the operator documents of fields. -/
def documents (ms : List (Key × Value)) : List (List (Key × Value)) :=
  ms :: membersDocuments ms

mutual

/-- **A key that a walk meets** is one of a document of the filter. -/
theorem mem_keys {k : Key} : (ms : List (Key × Value)) → k ∈ keys ms →
    ∃ d ∈ documents ms, k ∈ d.map Prod.fst
  | (l, v) :: ms, h => by
    rw [keys, List.mem_cons, List.mem_append] at h
    rcases h with rfl | h | h
    · exact ⟨_, List.mem_cons_self, List.mem_cons_self⟩
    · obtain ⟨d, hd, hk⟩ := mem_memberKeys l v h
      exact ⟨d, List.mem_cons_of_mem _ (List.mem_append_left _ hd), hk⟩
    · obtain ⟨d, hd, hk⟩ := mem_keys ms h
      obtain rfl | hd := List.mem_cons.mp hd
      · exact ⟨_, List.mem_cons_self, List.mem_cons_of_mem _ hk⟩
      · exact ⟨d, List.mem_cons_of_mem _ (List.mem_append_right _ hd), hk⟩

theorem mem_memberKeys {k : Key} (l : Key) : (v : Value) →
    k ∈ memberKeys l v → ∃ d ∈ memberDocuments l v, k ∈ d.map Prod.fst
  | .seq f cs, h => by
    unfold memberKeys at h
    unfold memberDocuments
    split at h
    · next hop =>
      rw [hop]
      exact mem_clausesKeys cs h
    · exact absurd h List.not_mem_nil

theorem mem_clausesKeys {k : Key} : (cs : List Value) →
    k ∈ clausesKeys cs → ∃ d ∈ clausesDocuments cs, k ∈ d.map Prod.fst
  | c :: cs, h => by
    rw [clausesKeys, List.mem_append] at h
    rcases h with h | h
    · obtain ⟨d, hd, hk⟩ := mem_clauseKeys c h
      exact ⟨d, List.mem_append_left _ hd, hk⟩
    · obtain ⟨d, hd, hk⟩ := mem_clausesKeys cs h
      exact ⟨d, List.mem_append_right _ hd, hk⟩

theorem mem_clauseKeys {k : Key} : (c : Value) →
    k ∈ clauseKeys c → ∃ d ∈ clauseDocuments c, k ∈ d.map Prod.fst
  | .doc ms, h => mem_keys ms h

end

/-- Where the keys of all documents are texts, nothing stops a report. -/
theorem fault_eq_none_of_distinctTexts {ms : List (Key × Value)}
    (h : ∀ d ∈ documents ms, DistinctTexts d) :
    (Report.ofFilter (.doc ms)).fault = none := by
  refine Report.fault_eq_none_of_texts fun k hk => ?_
  obtain ⟨d, hd, hkd⟩ := mem_keys ms hk
  obtain ⟨m, hm, rfl⟩ := List.mem_map.mp hkd
  exact (h d hd).1 m hm

end Filter

namespace Place

/-! ## Which member and which element a place is in -/

/-- The key of the member that a place is in. -/
def key : Place → Key
  | ⟨_ :: _, _⟩ => .text "$and"
  | ⟨[], .reserved k⟩ | ⟨[], .test k _ _⟩ => k
  | ⟨[], .strayConjunct _⟩ => .text "$and"
  | ⟨[], .strayDisjunct _⟩ | ⟨[], .orTest _ _ _ _⟩ => .text "$or"

/-- The position of the element that a place is in. -/
def position? : Place → Option Nat
  | ⟨i :: _, _⟩ => some i
  | ⟨[], .reserved _⟩ | ⟨[], .test _ _ _⟩ => none
  | ⟨[], .strayConjunct i⟩ | ⟨[], .strayDisjunct i⟩
  | ⟨[], .orTest i _ _ _⟩ => some i

variable {p : Place}

/-- A test that is left out has a tag and a reason. -/
theorem mem_ofTests {reason? : Key → Value → Option Reason}
    {spot : Key → Reason → Spot} {v : Value}
    (h : p ∈ ofTests reason? spot v) :
    ∃ tag operand r, reason? tag operand = some r ∧ p = ⟨[], spot tag r⟩ := by
  unfold ofTests at h
  split at h
  · exact absurd h List.not_mem_nil
  · obtain ⟨⟨tag, operand⟩, -, ht⟩ := List.mem_filterMap.mp h
    obtain ⟨r, hr, rfl⟩ := Option.map_eq_some_iff.mp ht
    exact ⟨tag, operand, r, hr, rfl⟩

theorem key_of_mem_ofOther {k : Key} {v : Value} (h : p ∈ ofOther k v) :
    p.key = k := by
  unfold ofOther at h
  split at h
  · obtain rfl := List.mem_singleton.mp h
    rfl
  · obtain ⟨tag, operand, r, -, rfl⟩ := mem_ofTests h
    rfl
  · exact absurd h List.not_mem_nil

theorem mem_ofOrElement {i : Nat} {c : Value} (h : p ∈ ofOrElement i c) :
    p.key = .text "$or" ∧ p.position? = some i := by
  cases c with
  | doc ms =>
    obtain ⟨m, -, hp⟩ := List.mem_flatMap.mp h
    obtain ⟨tag, operand, r, -, rfl⟩ := mem_ofTests hp
    exact ⟨rfl, rfl⟩
  | atom a | seq f vs =>
    obtain rfl := List.mem_singleton.mp h
    exact ⟨rfl, rfl⟩

theorem mem_ofClause {i : Nat} {c : Value} (h : p ∈ ofClause i c) :
    p.key = .text "$and" ∧ p.position? = some i := by
  cases c with
  | doc ms =>
    obtain ⟨q, -, rfl⟩ := List.mem_map.mp h
    exact ⟨rfl, rfl⟩
  | atom a | seq f vs =>
    obtain rfl := List.mem_singleton.mp h
    exact ⟨rfl, rfl⟩

/-- A place in some element of a list, from a position on, is at that
position or after it. -/
theorem mem_elements {k : Key} {element : Nat → Value → List Place}
    {elements : Nat → List Value → List Place}
    (hnil : ∀ i, elements i [] = [])
    (hcons : ∀ i c cs,
      elements i (c :: cs) = element i c ++ elements (i + 1) cs)
    (helement : ∀ i c, p ∈ element i c → p.key = k ∧ p.position? = some i)
    {i : Nat} {cs : List Value} (h : p ∈ elements i cs) :
    p.key = k ∧ ∃ j, i ≤ j ∧ p.position? = some j := by
  induction cs generalizing i with
  | nil => exact absurd (hnil i ▸ h) List.not_mem_nil
  | cons c cs ih =>
    rw [hcons, List.mem_append] at h
    rcases h with h | h
    · obtain ⟨hkey, hpos⟩ := helement i c h
      exact ⟨hkey, i, le_rfl, hpos⟩
    · obtain ⟨hkey, j, hij, hpos⟩ := ih h
      exact ⟨hkey, j, Nat.le_of_succ_le hij, hpos⟩

theorem mem_ofOrClauses {i : Nat} {cs : List Value}
    (h : p ∈ ofOrClauses i cs) :
    p.key = .text "$or" ∧ ∃ j, i ≤ j ∧ p.position? = some j :=
  mem_elements (fun _ => rfl) (fun _ _ _ => rfl)
    (fun _ _ => mem_ofOrElement) h

theorem mem_ofClauses {i : Nat} {cs : List Value} (h : p ∈ ofClauses i cs) :
    p.key = .text "$and" ∧ ∃ j, i ≤ j ∧ p.position? = some j :=
  mem_elements (fun _ => rfl) (fun _ _ _ => rfl) (fun _ _ => mem_ofClause) h

/-- **A place is in the member that it is a place of.** -/
theorem key_of_mem_ofMember {k : Key} {v : Value} (h : p ∈ ofMember k v) :
    p.key = k := by
  unfold ofMember at h
  split at h
  · split at h
    · next hop =>
      obtain rfl := Key.eq_text_of_operator? hop
      exact (mem_ofClauses h).1
    · next hop =>
      obtain rfl := Key.eq_text_of_operator? hop
      exact (mem_ofOrClauses h).1
    · exact key_of_mem_ofOther h
  · exact key_of_mem_ofOther h

theorem key_of_mem_ofMembers {ms : List (Key × Value)}
    (h : p ∈ ofMembers ms) : p.key ∈ ms.map Prod.fst := by
  induction ms with
  | nil => exact absurd h List.not_mem_nil
  | cons m ms ih =>
    rcases List.mem_append.mp h with h | h
    · rw [key_of_mem_ofMember h]
      exact List.mem_cons_self
    · exact List.mem_cons_of_mem _ (ih h)

/-! ## No place comes twice -/

/-- **Places that can be told apart by their omissions.** -/
structure Distinguished (ps : List Place) : Prop where
  nodup : ps.Nodup
  sound : ∀ p ∈ ps, p.spot.Sound

namespace Distinguished

variable {ps qs : List Place}

theorem nil : Distinguished [] := ⟨List.nodup_nil, nofun⟩

theorem singleton (hp : p.spot.Sound) : Distinguished [p] :=
  ⟨List.nodup_singleton p, fun _ hq => List.mem_singleton.mp hq ▸ hp⟩

/-- Places that some function tells from others. -/
theorem append {α : Type} (f : Place → α) (hps : Distinguished ps)
    (hqs : Distinguished qs) (h : ∀ p ∈ ps, ∀ q ∈ qs, f p ≠ f q) :
    Distinguished (ps ++ qs) where
  nodup := by
    refine hps.nodup.append hqs.nodup fun p hp hq => ?_
    exact h p hp p hq rfl
  sound p hp := (List.mem_append.mp hp).elim (hps.sound p) (hqs.sound p)

/-- The places in an element of a list, and those in the elements after
it. -/
theorem append_of_position {i : Nat} (hps : Distinguished ps)
    (hqs : Distinguished qs) (hp : ∀ p ∈ ps, p.position? = some i)
    (hq : ∀ q ∈ qs, ∃ j, i + 1 ≤ j ∧ q.position? = some j) :
    Distinguished (ps ++ qs) := by
  refine append position? hps hqs fun p hp' q hq' heq => ?_
  obtain ⟨j, hij, hj⟩ := hq q hq'
  rw [hp p hp', hj] at heq
  exact Nat.ne_of_lt hij (Option.some.inj heq)

/-- The places in an element of an `$and`. -/
theorem map_under (hps : Distinguished ps) (i : Nat) :
    Distinguished (ps.map (under i)) where
  nodup := by
    refine hps.nodup.map fun p q h => ?_
    obtain ⟨is, x⟩ := p
    obtain ⟨js, y⟩ := q
    cases h
    rfl
  sound := List.forall_mem_map.mpr hps.sound

end Distinguished

/-- Tests with two tags have two places. -/
theorem distinguished_ofTests {reason? : Key → Value → Option Reason}
    {spot : Key → Reason → Spot}
    (hspot : ∀ tag r, (spot tag r).operator = tag)
    (hsound : ∀ tag operand r, reason? tag operand = some r →
      (spot tag r).Sound)
    {v : Value} (h : ∀ d ∈ Filter.testDocuments v, DistinctTexts d) :
    Distinguished (ofTests reason? spot v) where
  nodup := by
    unfold ofTests
    unfold Filter.testDocuments at h
    split
    · exact List.nodup_nil
    · next ts hts =>
      rw [hts] at h
      have htags : ts.Pairwise fun t u => t.1 ≠ u.1 :=
        List.pairwise_map.mp (h ts List.mem_cons_self).2
      refine List.pairwise_filterMap.mpr (htags.imp ?_)
      rintro t u htu p hp q hq rfl
      obtain ⟨r, -, hr⟩ := Option.map_eq_some_iff.mp hp
      obtain ⟨r', -, hr'⟩ := Option.map_eq_some_iff.mp hq
      have hoperator : (spot t.1 r).operator = (spot u.1 r').operator :=
        congrArg (fun p => p.spot.operator) (hr.trans hr'.symm)
      rw [hspot, hspot] at hoperator
      exact htu hoperator
  sound p hp := by
    obtain ⟨tag, operand, r, hr, rfl⟩ := mem_ofTests hp
    exact hsound tag operand r hr

/-- The places at a member that joins no clauses. -/
theorem distinguished_ofOther {k : Key} {v : Value}
    (h : ∀ d ∈ Filter.otherDocuments k v, DistinctTexts d) :
    Distinguished (ofOther k v) := by
  unfold ofOther
  split
  · exact .singleton (.reserved k)
  · next hmark =>
    obtain ⟨s, rfl, hs⟩ := Key.exists_text_of_hasMark hmark
    have hfield : Filter.otherDocuments (.text s) v
        = Filter.testDocuments v := if_neg (Bool.eq_false_iff.mp hs)
    rw [hfield] at h
    refine distinguished_ofTests (fun _ _ => rfl) (fun _ _ _ hr => ?_) h
    exact .of_fieldReason? hs hr
  · exact .nil

/-- The places in an element of an `$or`. -/
theorem distinguished_ofOrElement (i : Nat) {c : Value}
    (h : ∀ d ∈ Filter.orElementDocuments c, DistinctTexts d) :
    Distinguished (ofOrElement i c) := by
  cases c with
  | atom a | seq f vs => exact .singleton (.strayDisjunct i)
  | doc ms =>
    obtain ⟨⟨htexts, hkeys⟩, htests⟩ := List.forall_mem_cons.mp h
    have hmember : ∀ m ∈ ms, Distinguished
        (ofTests Report.fragmentReason? (.orTest i m.1) m.2) := by
      intro m hm
      obtain ⟨s, hs⟩ := Key.exists_text_of_isSome (htexts m hm)
      rw [hs]
      refine distinguished_ofTests (fun _ _ => rfl) (fun _ _ _ hr => ?_)
        fun d hd => htests d (List.mem_flatMap.mpr ⟨m, hm, hd⟩)
      exact .of_fragmentReason? i hr
    refine ⟨List.nodup_flatMap.mpr ⟨fun m hm => (hmember m hm).nodup, ?_⟩, ?_⟩
    · refine (List.pairwise_map.mp hkeys).imp fun {m n} hmn p hp hq => ?_
      obtain ⟨tag, operand, r, -, rfl⟩ := mem_ofTests hp
      obtain ⟨tag', operand', r', -, heq⟩ := mem_ofTests hq
      exact hmn (Spot.orTest.inj (Place.mk.inj heq).2).2.1
    · intro p hp
      obtain ⟨m, hm, hpm⟩ := List.mem_flatMap.mp hp
      exact (hmember m hm).sound p hpm

/-- The places in an `$or`. -/
theorem distinguished_ofOrClauses (i : Nat) {cs : List Value}
    (h : ∀ d ∈ cs.flatMap Filter.orElementDocuments, DistinctTexts d) :
    Distinguished (ofOrClauses i cs) := by
  induction cs generalizing i with
  | nil => exact .nil
  | cons c cs ih =>
    obtain ⟨hc, hcs⟩ := List.forall_mem_append.mp h
    exact (distinguished_ofOrElement i hc).append_of_position (ih (i + 1) hcs)
      (fun p hp => (mem_ofOrElement hp).2) fun q hq => (mem_ofOrClauses hq).2

mutual

/-- **No place of a document comes twice**, and each can be told from its
omission. -/
theorem distinguished_ofMembers : (ms : List (Key × Value)) →
    (ms.map Prod.fst).Nodup →
    (∀ d ∈ Filter.membersDocuments ms, DistinctTexts d) →
    Distinguished (ofMembers ms)
  | [], _, _ => .nil
  | (k, v) :: ms, hkeys, h => by
    obtain ⟨hk, hkeys⟩ := List.nodup_cons.mp hkeys
    obtain ⟨hv, hms⟩ := List.forall_mem_append.mp h
    refine (distinguished_ofMember k v hv).append key
      (distinguished_ofMembers ms hkeys hms) fun p hp q hq heq => ?_
    rw [key_of_mem_ofMember hp] at heq
    exact hk (heq ▸ key_of_mem_ofMembers hq)

theorem distinguished_ofMember (k : Key) : (v : Value) →
    (∀ d ∈ Filter.memberDocuments k v, DistinctTexts d) →
    Distinguished (ofMember k v)
  | .seq f cs, h => by
    unfold Filter.memberDocuments at h
    unfold ofMember
    cases hop : k.operator? with
    | none =>
      rw [hop] at h
      exact distinguished_ofOther h
    | some op =>
      rw [hop] at h
      cases op with
      | and => exact distinguished_ofClauses 0 cs h
      | or => exact distinguished_ofOrClauses 0 h
      | _ => exact distinguished_ofOther h
  | .atom a, h => distinguished_ofOther h
  | .doc ms, h => distinguished_ofOther h

theorem distinguished_ofClauses (i : Nat) : (cs : List Value) →
    (∀ d ∈ Filter.clausesDocuments cs, DistinctTexts d) →
    Distinguished (ofClauses i cs)
  | [], _ => .nil
  | c :: cs, h => by
    obtain ⟨hc, hcs⟩ := List.forall_mem_append.mp h
    exact (distinguished_ofClause i c hc).append_of_position
      (distinguished_ofClauses (i + 1) cs hcs)
      (fun p hp => (mem_ofClause hp).2) fun q hq => (mem_ofClauses hq).2

theorem distinguished_ofClause (i : Nat) : (c : Value) →
    (∀ d ∈ Filter.clauseDocuments c, DistinctTexts d) →
    Distinguished (ofClause i c)
  | .doc ms, h => by
    obtain ⟨hms, hinner⟩ := List.forall_mem_cons.mp h
    exact (distinguished_ofMembers ms hms.2 hinner).map_under i
  | .atom a, _ => .singleton (.strayConjunct i)
  | .seq f vs, _ => .singleton (.strayConjunct i)

end

end Place

/-- A reason is told by its text. -/
theorem Reason.text_inj {r r' : Reason} (h : r.text = r'.text) : r = r' := by
  cases r <;> cases r' <;> first | rfl | exact absurd h (by decide)

/-- Two omissions differ in one of the three. -/
theorem Omission.differ {o o' : Omission} (h : o ≠ o') :
    o.path ≠ o'.path ∨ o.operator ≠ o'.operator
      ∨ o.reason.text ≠ o'.reason.text := by
  by_contra hsame
  push Not at hsame
  obtain ⟨hpath, hoperator, hreason⟩ := hsame
  obtain ⟨path, operator, reason⟩ := o
  obtain rfl := hpath
  obtain rfl := hoperator
  obtain rfl := Reason.text_inj hreason
  exact h rfl

namespace Filter

/-- **No omission is reported twice.** Where the keys of every document in a
filter are texts, no two of one document alike, there is a report; it has an
omission for each site of the filter that is left out, and any two of these
differ in the path, the operator or the reason. -/
theorem omissions_distinct (ms : List (Key × Value))
    (h : ∀ d ∈ documents ms, DistinctTexts d) :
    let os := (Value.doc ms).sites.filterMap fun s => s.outcome.omission?
    (Value.doc ms).omissions = .ok os
      ∧ os.Pairwise fun o o' => o.path ≠ o'.path
          ∨ o.operator ≠ o'.operator ∨ o.reason.text ≠ o'.reason.text := by
  intro os
  have hfault := fault_eq_none_of_distinctTexts h
  have hos : (Value.doc ms).omissions = .ok os := by
    rw [omissions_of_fault_eq_none hfault, List.filterMap_map]
    rfl
  have hplaces : os = (Place.ofMembers ms).map (Place.omission "") :=
    Except.ok.inj (hos.symm.trans (omissions_eq_places hfault))
  refine ⟨hos, ?_⟩
  rw [hplaces]
  obtain ⟨hms, hinner⟩ := List.forall_mem_cons.mp h
  have hdistinct := Place.distinguished_ofMembers ms hms.2 hinner
  refine List.Pairwise.imp (fun hne => Omission.differ hne) ?_
  refine List.Nodup.map_on (fun p hp q hq heq => ?_) hdistinct.nodup
  exact Place.omission_inj (hdistinct.sound p hp) (hdistinct.sound q hq) heq

/-- A filter with names that imitate paths: three reserved keys called like
the path of something else, a field with no name, and in an `$or` a field
called like a path into an `$and`. -/
def imitations : List (Key × Value) :=
  let untested : Value := .doc [(.text "$foo", .int 1)]
  [(.text "$and[0].$foo", .int 1),
   (.text "$or[0].$and[0].b", untested),
   (.text "$and[1]", .null),
   (.text "", untested),
   (.text "$and", .list
     [.doc [(.text "$foo", .int 1), (.text "", untested),
        (.text "$and", .list [.int 2])],
      .int 3]),
   (.text "$or", .list
     [.doc [(.text "$and[0].b", untested), (.text "", untested)], .int 4])]

/-- Three paths come twice there, each time under two operators. -/
theorem omissions_distinct_imitations :
    (∀ d ∈ documents imitations, DistinctTexts d)
      ∧ ∃ os, (Value.doc imitations).omissions = .ok os
        ∧ os.map Omission.path
          = ["$and[0].$foo", "$or[0].$and[0].b", "$and[1]", "",
             "$and[0].$foo", "$and[0].", "$and[0].$and[0]", "$and[1]",
             "$or[0].$and[0].b", "$or[0].", "$or[1]"]
        ∧ os.Pairwise fun o o' => o.path ≠ o'.path
            ∨ o.operator ≠ o'.operator ∨ o.reason.text ≠ o'.reason.text := by
  have htexts : ∀ d ∈ documents imitations, DistinctTexts d := by decide
  obtain ⟨hos, hdistinct⟩ := omissions_distinct imitations htexts
  exact ⟨htexts, _, hos, by decide, hdistinct⟩

end Filter

end DocFilter
