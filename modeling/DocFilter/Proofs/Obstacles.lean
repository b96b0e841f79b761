import DocFilter.Proofs.Writing

/-!
# What stops a walk

Of all that a document can hold three things stop a walk of it: a key that is
no text, in which the operator mark cannot be looked for; a `$regex` on a
field with a regular expression over bytes, from which no text anchors can be
taken; and an integer with too many digits, where a text is made of it. A
translation makes a text of the list of a `$nin`, of the operand of a
`$regex` and of an `$or`, a report makes one of each path.

`Filter.obstacles` lists them in document order. It descends where the walks
do – into the documents of an `$and` with a list, and neither into the value
of a reserved key nor, unless a text is made of it, into an `$or`.

The third kind is there because of the limit on digits. Where all integers of
a document are written, none of its obstacles is of that kind
(`Filter.not_isLong_members`), and an `$or` holds no obstacle at all
(`Obstacle.ofOr_of_allFit`). What a walk does about an obstacle is in
`DocFilter.Proofs.CutShort`.
-/

namespace DocFilter

/-- **What can stop a walk of a document.** -/
inductive Obstacle where
  /-- A key that is no text. -/
  | key (key : Key)
  /-- A `$regex` on a field, with a regular expression over bytes. -/
  | bytesPattern (source : List UInt8)
  /-- A text that a call holds, made of an integer that is not written. -/
  | longText
  /-- A path, made of a key with an integer that is not written. -/
  | longPath (key : Key)
  deriving DecidableEq

namespace Obstacle

/-- The fault of an obstacle. -/
def fault (limit : DigitLimit) : Obstacle → Fault
  | key (.atom (.bytes _)) | bytesPattern _ => .markInBytes
  | key k => .notMarkable k.kind
  | longText | longPath _ => limit.fault

/-- **How the fault of an obstacle is worded.** A key other than bytes is
named by its kind. -/
def wording (limit : DigitLimit) : Obstacle → String
  | key (.atom (.bytes _)) | bytesPattern _ =>
    "startswith first arg must be bytes or a tuple of bytes, not str"
  | key k => "'" ++ k.kind.name ++ "' object has no attribute 'startswith'"
  | longText | longPath _ =>
    "Exceeds the limit (" ++ toString limit.digits
      ++ " digits) for integer string "
      ++ "conversion; use sys.set_int_max_str_digits() to increase the limit"

/-- Whether an obstacle stops a translation, which makes no paths. -/
def stopsTranslation : Obstacle → Bool
  | longPath _ => false
  | _ => true

/-- Whether an obstacle stops a report, which looks at keys alone. -/
def stopsReport : Obstacle → Bool
  | key _ | longPath _ => true
  | _ => false

/-- Whether an obstacle is there because of the limit on digits. -/
def isLong : Obstacle → Bool
  | longText | longPath _ => true
  | _ => false

/-- An obstacle, where something does not fit. -/
def unlessFits (fits : Bool) (o : Obstacle) : List Obstacle :=
  if fits then [] else [o]

variable (limit : DigitLimit)

/-- The obstacle to writing a path that a key is part of. -/
def ofPath (k : Key) : List Obstacle :=
  unlessFits (k.fits limit) (longPath k)

/-- The obstacles that a test is. -/
def ofTest (tag : Key) (operand : Value) : List Obstacle :=
  match tag.operator?, operand with
  | some .regex, .pattern (.bytes source) => [bytesPattern source]
  | some .regex, v =>
    unlessFits (Value.allFit limit [v]) longText
  | some .notInList, .seq _ vs =>
    unlessFits (Value.allFit limit vs) longText
  | _, _ => []

/-- The obstacles among the tests of a field. -/
def ofField (v : Value) : List Obstacle :=
  match v.condition with
  | .plain _ => []
  | .operators tests =>
    tests.flatMap fun (tag, operand) => ofTest limit tag operand

/-- The obstacles at a member that joins no clauses. -/
def ofOther (k : Key) (v : Value) : List Obstacle :=
  match k.text? with
  | none => [key k]
  | some s => if isMarked s then [] else ofField limit v

/-- The obstacle in the path of a field of an `$or`, which is written if
there are tests on the field. -/
def ofOrField (k : Key) (v : Value) : List Obstacle :=
  match v.condition with
  | .plain _ => []
  | .operators _ => ofPath limit k

/-- The obstacles in the paths of an element of an `$or`. -/
def ofOrElement : Value → List Obstacle
  | .doc ms => ms.flatMap fun (k, v) => ofOrField limit k v
  | _ => []

/-- The obstacles at an `$or`: its text, and the paths in it. -/
def ofOr (clauses : List Value) : List Obstacle :=
  unlessFits (Disjunction.fits limit clauses) longText
    ++ clauses.flatMap (ofOrElement limit)

end Obstacle

namespace Filter

variable (limit : DigitLimit)

mutual

/-- **The obstacles of the members of a document**, in order. -/
def obstacles : List (Key × Value) → List Obstacle
  | [] => []
  | (k, v) :: ms =>
    (Obstacle.ofPath limit k ++ memberObstacles k v) ++ obstacles ms

/-- The obstacles of one member: those of the elements, if it is an `$and`
with a list. -/
def memberObstacles (k : Key) : Value → List Obstacle
  | .seq f cs =>
    match k.operator? with
    | some .and => clausesObstacles cs
    | some .or => Obstacle.ofOr limit cs
    | _ => Obstacle.ofOther limit k (.seq f cs)
  | v => Obstacle.ofOther limit k v

/-- The obstacles of the elements of an `$and`. -/
def clausesObstacles : List Value → List Obstacle
  | [] => []
  | c :: cs => clauseObstacles c ++ clausesObstacles cs

/-- The obstacles of one element. -/
def clauseObstacles : Value → List Obstacle
  | .doc ms => obstacles ms
  | _ => []

end

end Filter

/-! ## Where all integers are written -/

namespace Obstacle

variable {limit : DigitLimit}

/-- What fits is no obstacle. -/
theorem unlessFits_of_fit {fits : Bool} (h : fits = true) (o : Obstacle) :
    unlessFits fits o = [] := if_pos h

/-- A test whose operand fits is no obstacle of the limit. -/
theorem not_isLong_ofTest {operand : Value} (h : operand.fits limit = true)
    (tag : Key) : ∀ o ∈ ofTest limit tag operand, o.isLong = false := by
  have hfit : Value.allFit limit [operand] = true := by
    rw [Value.allFit, Value.allFit, h, Bool.and_true]
  unfold ofTest
  split
  · exact List.forall_mem_singleton.mpr rfl
  · rw [unlessFits_of_fit hfit]
    exact List.forall_mem_nil _
  · rw [Value.fits] at h
    rw [unlessFits_of_fit h]
    exact List.forall_mem_nil _
  · exact List.forall_mem_nil _

/-- A field whose value fits has no obstacle of the limit. -/
theorem not_isLong_ofField {v : Value} (h : v.fits limit = true) :
    ∀ o ∈ ofField limit v, o.isLong = false := by
  unfold ofField
  cases hv : v.condition with
  | plain w => exact List.forall_mem_nil _
  | operators tests =>
    obtain rfl := Value.eq_of_condition_operators hv
    intro o ho
    obtain ⟨t, ht, hot⟩ := List.mem_flatMap.mp ho
    exact not_isLong_ofTest (Value.fits_of_member h ht).2 t.1 o hot

/-- A member that joins no clauses and whose value fits has no obstacle of
the limit. -/
theorem not_isLong_ofOther (k : Key) {v : Value} (h : v.fits limit = true) :
    ∀ o ∈ ofOther limit k v, o.isLong = false := by
  unfold ofOther
  split
  · exact List.forall_mem_singleton.mpr rfl
  · split
    · exact List.forall_mem_nil _
    · exact not_isLong_ofField h

/-- **An `$or` whose elements fit has no obstacle.** -/
theorem ofOr_of_allFit {clauses : List Value}
    (h : Value.allFit limit clauses = true) : ofOr limit clauses = [] := by
  rw [ofOr, unlessFits_of_fit (Disjunction.fits_of_allFit h),
    List.nil_append, List.flatMap_eq_nil_iff]
  intro c hc
  cases c with
  | atom a => rfl
  | seq f vs => rfl
  | doc ms =>
    refine List.flatMap_eq_nil_iff.mpr fun m hm => ?_
    have hkey := (Value.fits_of_member (Value.fits_of_mem h hc) hm).1
    dsimp only
    unfold ofOrField
    split
    · rfl
    · exact unlessFits_of_fit hkey _

end Obstacle

namespace Filter

variable {limit : DigitLimit}

mutual

/-- **A document whose integers are all written** has no obstacle of the
limit. -/
theorem not_isLong_members : {ms : List (Key × Value)} →
    Value.membersFit limit ms = true →
    ∀ o ∈ obstacles limit ms, o.isLong = false
  | [], _ => List.forall_mem_nil _
  | (k, v) :: ms, h => by
    rw [Value.membersFit, Bool.and_eq_true_iff, Bool.and_eq_true_iff] at h
    obtain ⟨⟨hkey, hvalue⟩, hms⟩ := h
    rw [obstacles, Obstacle.ofPath, Obstacle.unlessFits_of_fit hkey,
      List.nil_append]
    exact List.forall_mem_append.mpr
      ⟨not_isLong_member k hvalue, not_isLong_members hms⟩

theorem not_isLong_member (k : Key) : {v : Value} →
    v.fits limit = true → ∀ o ∈ memberObstacles limit k v, o.isLong = false
  | .seq f cs, h => by
    unfold memberObstacles
    split
    · exact not_isLong_clauses h
    · rw [Obstacle.ofOr_of_allFit h]
      exact List.forall_mem_nil _
    · exact Obstacle.not_isLong_ofOther k h
  | .atom _, h => Obstacle.not_isLong_ofOther k h
  | .doc _, h => Obstacle.not_isLong_ofOther k h

theorem not_isLong_clauses : {cs : List Value} →
    Value.allFit limit cs = true →
    ∀ o ∈ clausesObstacles limit cs, o.isLong = false
  | [], _ => List.forall_mem_nil _
  | c :: cs, h => by
    rw [Value.allFit, Bool.and_eq_true_iff] at h
    rw [clausesObstacles]
    exact List.forall_mem_append.mpr
      ⟨not_isLong_clause h.1, not_isLong_clauses h.2⟩

theorem not_isLong_clause : {c : Value} →
    c.fits limit = true → ∀ o ∈ clauseObstacles limit c, o.isLong = false
  | .doc _, h => not_isLong_members h
  | .atom _, _ => List.forall_mem_nil _
  | .seq _ _, _ => List.forall_mem_nil _

end

end Filter

end DocFilter
