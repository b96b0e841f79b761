import DocFilter.Filter.Document
import DocFilter.Report

/-!
# The outline of a filter

A filter is walked three times: once for the calls it asks for, once for
the text of each `$or`, and once for the report of what is left out. The
**outline** is the list all three walks go by. It names every **site** of a
filter in document order – every plain value, every test of an operator
document, every reserved key that joins no clauses, every element of a list
of clauses that is no document – and looks at nothing else.

An `$and` with a list leaves no trace in the outline: its clauses stand
where it stood. An `$or` with a list is one **part** of the outline, since
it becomes one call, and the sites of its clauses are the sites of that
part. Inside its clauses every key is a column, whatever it begins with.

What becomes of a site is its **outcome**, which depends on the site alone.
The module `DocFilter.Proofs.Walks` shows that each walk makes of the
outline what the outcomes say.

## Sites that stop a walk

Two sites end a translation in a fault: a key in which the operator mark
cannot be looked for, and a `$regex` whose operand gives no pattern. The
report stops only at the first of them, since it looks at no operand; so a
fault is an outcome for the one walk and nothing for the other.
-/

namespace DocFilter

/-- **A site of a filter.** Those that can be left out know their path. -/
inductive Site where
  /-- A field with a plain value. -/
  | plain (column : Key) (value : Value)
  /-- A test on a field. -/
  | test (path : String) (column tag : Key) (operand : Value)
  /-- A reserved key that joins no clauses. -/
  | reserved (path : String) (key : Key)
  /-- An element of an `$and` that is no document. -/
  | strayConjunct (path : String) (element : Value)
  /-- A key in which the mark cannot be looked for. -/
  | unreadable (fault : Fault)
  /-- A field with a plain value, in a clause of an `$or`. -/
  | orPlain (column : Key) (value : Value)
  /-- A test on a field, in a clause of an `$or`. -/
  | orTest (path : String) (column tag : Key) (operand : Value)
  /-- An element of an `$or` that is no document. -/
  | strayDisjunct (path : String) (element : Value)

/-- **What becomes of a site.** -/
inductive Outcome where
  | called (call : Call)
  /-- A fragment of a written `$or` stands for it. -/
  | written (fragment : Fragment)
  /-- It is left out: a note tells so, and the report lists it. -/
  | leftOut (note : Note) (omission : Omission)
  | stopped (fault : Fault)
  deriving DecidableEq

namespace Outcome

def call? : Outcome → Option Call
  | called c => some c
  | _ => none

def fragment? : Outcome → Option Fragment
  | written f => some f
  | _ => none

def note? : Outcome → Option Note
  | leftOut n _ => some n
  | _ => none

def omission? : Outcome → Option Omission
  | leftOut _ o => some o
  | _ => none

/-- **What becomes of a test on a field.** The tests of lists need a list,
and a tag of nothing, or of what joins documents, is no test. -/
def ofTest (path : String) (column tag : Key) (operand : Value) : Outcome :=
  let column := column.toValue
  match tag.operator? with
  | some .eq => called (Filter.equality column operand)
  | some .ne => called (Filter.difference column operand)
  | some .gt => called (.compare .gt column operand)
  | some .gte => called (.compare .gte column operand)
  | some .lt => called (.compare .lt column operand)
  | some .lte => called (.compare .lte column operand)
  | some .inList =>
    match operand with
    | .seq _ vs => called (.isIn column (.list vs))
    | _ => leftOut (.inWithoutList column) ⟨path, tag, .needsList⟩
  | some .notInList =>
    match operand with
    | .seq _ vs =>
      called (.not column (.text "in") (.text (Value.listText true vs)))
    | _ => leftOut (.notInWithoutList column) ⟨path, tag, .needsList⟩
  | some .regex =>
    match operand.likePattern with
    | .ok p => called (.ilike column (.text (LikePattern.anywhere p)))
    | .error f => stopped f
  | some .present => called (Filter.presence column operand.isTruthy)
  | _ => leftOut (.noCall tag column) ⟨path, tag, .noCall⟩

/-- **What becomes of a test in an `$or`.** Fewer tests can be written than
called, and here too a test of a list needs one. -/
def ofOrTest (path : String) (column tag : Key) (operand : Value) :
    Outcome :=
  let column := column.toValue
  let notWritten := leftOut (.notWritten tag column) ⟨path, tag, .notWritten⟩
  match tag.operator? with
  | some .inList =>
    match operand with
    | .seq _ vs => written ⟨column, "in", Value.listText false vs⟩
    | _ => leftOut (.writtenInWithoutList column) ⟨path, tag, .needsList⟩
  | some op =>
    match Disjunction.name? op with
    | some name => written ⟨column, name, operand.filterText⟩
    | none => notWritten
  | none => notWritten

end Outcome

/-- Whether a key joins clauses, given a list of them. -/
def Key.joinsClauses (k : Key) : Bool :=
  k.operator? == some .and || k.operator? == some .or

/-- The keys that join clauses are two. -/
theorem Key.joinsClauses_iff {k : Key} :
    k.joinsClauses = true ↔ k = .text "$and" ∨ k = .text "$or" := by
  constructor
  · intro h
    obtain h | h := Bool.or_eq_true_iff.mp h
    · exact Or.inl (eq_text_of_operator? (by simpa using h))
    · exact Or.inr (eq_text_of_operator? (by simpa using h))
  · rintro (rfl | rfl) <;> rfl

namespace Site

/-- **What becomes of a site**, by itself. A reserved key that could join
clauses lacks the list of them; any other could not join any. -/
def outcome : Site → Outcome
  | plain column v => .called (Filter.equality column.toValue v)
  | test path column tag operand => .ofTest path column tag operand
  | reserved path k =>
    .leftOut (.skippedKey k)
      ⟨path, k, if k.joinsClauses then .needsList else .noConnective⟩
  | strayConjunct path v =>
    .leftOut (.strayAndClause v)
      ⟨path, .text Operator.and.tag, .needsDocument⟩
  | unreadable f => .stopped f
  | orPlain column v => .written (Disjunction.plain column.toValue v)
  | orTest path column tag operand => .ofOrTest path column tag operand
  | strayDisjunct path v =>
    .leftOut (.strayOrClause v)
      ⟨path, .text Operator.or.tag, .needsDocument⟩

/-- The sites of a condition: one for a plain value, one for each test. -/
def ofCondition (plain : Value → Site) (test : Key → Value → Site)
    (v : Value) : List Site :=
  match v.condition with
  | .plain v => [plain v]
  | .operators ts => ts.map fun (tag, operand) => test tag operand

/-- The sites of a field. -/
def ofField (path : String) (k : Key) (v : Value) : List Site :=
  ofCondition (plain k) (test path k) v

/-- The sites of a member that joins no clauses. -/
def ofOther (path : String) (k : Key) (v : Value) : List Site :=
  match k.hasMark with
  | .ok true => [reserved path k]
  | .ok false => ofField path k v
  | .error f => [unreadable f]

/-- The sites of the fields of an `$or` clause, with `stem` before each
path. -/
def ofOrMembers (stem : String) (ms : List (Key × Value)) : List Site :=
  ms.flatMap fun (k, v) =>
    ofCondition (orPlain k) (orTest (stem ++ k.display) k) v

/-- The sites of an element of an `$or`. -/
def ofOrElement (path : String) : Value → List Site
  | .doc ms => ofOrMembers (path ++ ".") ms
  | v => [strayDisjunct path v]

/-- The sites of the elements of an `$or`, from a position on. -/
def ofOrClauses (path : String) (position : Nat) : List Value → List Site
  | [] => []
  | c :: cs =>
    ofOrElement (Report.clausePath path position) c
      ++ ofOrClauses path (position + 1) cs

end Site

/-- **A part of an outline**: a site by itself, or an `$or` with its
clauses. -/
inductive Part where
  /-- A site outside of every `$or`. -/
  | alone (site : Site)
  | joined (path : String) (clauses : List Value)

namespace Part

/-- The sites of a part. -/
def sites : Part → List Site
  | alone s => [s]
  | joined path cs => Site.ofOrClauses path 0 cs

/-- **The call a part becomes.** An `$or` is one call with the fragments of
its sites, joined by commas. -/
def call? : Part → Option Call
  | alone s => s.outcome.call?
  | p@(joined _ _) =>
    some (.or (.text (",".intercalate
      ((p.sites.filterMap fun s => s.outcome.fragment?).map
        Fragment.text))))

end Part

namespace Outline

mutual

/-- **The outline of the members of a document**, with `stem` before each
path. -/
def members (stem : String) : List (Key × Value) → List Part
  | [] => []
  | (k, v) :: ms => member stem k v ++ members stem ms

def member (stem : String) (k : Key) : Value → List Part
  | .seq f cs =>
    match k.operator? with
    | some .and => clauses (stem ++ k.display) 0 cs
    | some .or => [.joined (stem ++ k.display) cs]
    | _ => (Site.ofOther (stem ++ k.display) k (.seq f cs)).map .alone
  | v => (Site.ofOther (stem ++ k.display) k v).map .alone

/-- The outline of the elements of an `$and`, from a position on. -/
def clauses (path : String) (position : Nat) : List Value → List Part
  | [] => []
  | c :: cs =>
    clause (Report.clausePath path position) c
      ++ clauses path (position + 1) cs

/-- The outline of one element of an `$and`. -/
def clause (path : String) : Value → List Part
  | .doc ms => members (path ++ ".") ms
  | v => [.alone (.strayConjunct path v)]

end

end Outline

/-- **The outline of a filter.** What is no document has none. -/
def Value.outline : Value → List Part
  | .doc ms => Outline.members "" ms
  | _ => []

/-- **The sites of a filter**, in document order. -/
def Value.sites (v : Value) : List Site := v.outline.flatMap Part.sites

/-! ## What holds of every part

A part is a site of a member that joins no clauses, an element of an `$and`
that is no document, or an `$or`. What holds of these holds of every part,
however deep the `$and` it comes from. -/

namespace Outline

/-- **A property of each kind of part.** -/
structure HoldsOfKinds (P : Part → Prop) : Prop where
  /-- It holds of the sites of a member that joins no clauses. -/
  other : ∀ path k v, ∀ s ∈ Site.ofOther path k v, P (.alone s)
  /-- It holds of an element of an `$and` that is no document. -/
  stray : ∀ path v, P (.alone (.strayConjunct path v))
  joined : ∀ path cs, P (.joined path cs)

variable {P : Part → Prop}

/-- What holds of each kind of part holds of a member that joins no
clauses. -/
theorem forall_map_alone (h : HoldsOfKinds P) (path : String) (k : Key)
    (v : Value) : ∀ p ∈ (Site.ofOther path k v).map Part.alone, P p := by
  intro p hp
  obtain ⟨s, hs, rfl⟩ := List.mem_map.mp hp
  exact h.other path k v s hs

mutual

/-- What holds of each kind of part holds of the parts of a document. -/
theorem forall_members (h : HoldsOfKinds P) (stem : String) :
    (ms : List (Key × Value)) → ∀ p ∈ members stem ms, P p
  | [] => fun _ hp => absurd hp List.not_mem_nil
  | (k, v) :: ms => fun p hp =>
    (List.mem_append.mp hp).elim (forall_member h stem k v p)
      (forall_members h stem ms p)

/-- What holds of each kind of part holds of the parts of a member. -/
theorem forall_member (h : HoldsOfKinds P) (stem : String) (k : Key) :
    (v : Value) → ∀ p ∈ member stem k v, P p
  | .seq f cs => by
    unfold member
    cases k.operator? with
    | none => exact forall_map_alone h _ k (.seq f cs)
    | some op =>
      cases op with
      | and => exact forall_clauses h (stem ++ k.display) 0 cs
      | or =>
        intro p hp
        obtain rfl := List.mem_singleton.mp hp
        exact h.joined _ cs
      | _ => exact forall_map_alone h _ k (.seq f cs)
  | .atom a => forall_map_alone h (stem ++ k.display) k (.atom a)
  | .doc ms => forall_map_alone h (stem ++ k.display) k (.doc ms)

/-- What holds of each kind of part holds of the parts of an `$and`. -/
theorem forall_clauses (h : HoldsOfKinds P) (path : String)
    (position : Nat) :
    (cs : List Value) → ∀ p ∈ clauses path position cs, P p
  | [] => fun _ hp => absurd hp List.not_mem_nil
  | c :: cs => fun p hp =>
    (List.mem_append.mp hp).elim
      (forall_clause h (Report.clausePath path position) c p)
      (forall_clauses h path (position + 1) cs p)

/-- What holds of each kind of part holds of the parts of an element of an
`$and`. -/
theorem forall_clause (h : HoldsOfKinds P) (path : String) :
    (c : Value) → ∀ p ∈ clause path c, P p
  | .doc ms => forall_members h (path ++ ".") ms
  | .atom a => fun p hp => by
    obtain rfl := List.mem_singleton.mp hp
    exact h.stray path (.atom a)
  | .seq f vs => fun p hp => by
    obtain rfl := List.mem_singleton.mp hp
    exact h.stray path (.seq f vs)

end

/-- **What holds of each kind of part holds of every part of a filter.** -/
theorem forall_outline (h : HoldsOfKinds P) (v : Value) :
    ∀ p ∈ v.outline, P p := by
  cases v with
  | doc ms => exact forall_members h "" ms
  | atom a => exact fun p hp => absurd hp List.not_mem_nil
  | seq f vs => exact fun p hp => absurd hp List.not_mem_nil

end Outline

end DocFilter
