import DocFilter.Decimal.Binary64

/-!
# Document values

What a filter document is made of. The scalar values are **atoms**; a
value is an atom, a sequence – a list or a tuple – or a document, which
holds its members in the order they were written.

The keys of a document are values too, but not all of them: a **key** is
an atom or a tuple of keys, since a list or a document cannot be looked
up. The type says so, and `Key.toValue` forgets it again.
-/

namespace DocFilter

/-- The options a regular expression was compiled with. -/
structure Flags where
  /-- Letters match in either case. -/
  ignoreCase : Bool
  /-- Anchors match at every line. -/
  multiline : Bool
  /-- A dot matches a line break too. -/
  dotAll : Bool
  /-- Blanks and comments are skipped. -/
  verbose : Bool
  /-- Character classes are those of ASCII. -/
  ascii : Bool
  deriving DecidableEq

/-- **A compiled regular expression**, over text or over bytes. It is
carried and read, never run. -/
inductive Pattern where
  /-- An expression over text. -/
  | text (source : String) (flags : Flags)
  /-- An expression over bytes. -/
  | bytes (source : List UInt8)
  deriving DecidableEq

/-- **A scalar value.** -/
inductive Atom where
  /-- Nothing. -/
  | null
  /-- A truth value. -/
  | bool (b : Bool)
  /-- An integer of any size. -/
  | int (n : Int)
  /-- A floating-point number. -/
  | float (x : Binary64)
  /-- A text. -/
  | text (s : String)
  /-- A byte string. -/
  | bytes (bs : List UInt8)
  /-- A compiled regular expression. -/
  | pattern (p : Pattern)
  deriving DecidableEq

/-- **A key of a document**: an atom or a tuple of keys. -/
inductive Key where
  /-- A scalar key. -/
  | atom (a : Atom)
  /-- A tuple of keys. -/
  | tuple (ks : List Key)

/-- The two forms of a sequence. -/
inductive SeqForm where
  | list
  | tuple
  deriving DecidableEq

/-- **A value**: an atom, a sequence, or a document with its members in
order. -/
inductive Value where
  /-- A scalar value. -/
  | atom (a : Atom)
  /-- A list or a tuple. -/
  | seq (form : SeqForm) (items : List Value)
  /-- A document. -/
  | doc (members : List (Key × Value))

namespace Key

/-- A key that is a text. -/
@[match_pattern] abbrev text (s : String) : Key := .atom (.text s)

/-- The text a key is, if it is one. -/
def text? : Key → Option String
  | .text s => some s
  | _ => none

@[simp] theorem text?_text (s : String) : (text s).text? = some s := rfl

end Key

namespace Value

/-- Nothing, as a value. -/
@[match_pattern] abbrev null : Value := .atom .null

/-- A truth value, as a value. -/
@[match_pattern] abbrev bool (b : Bool) : Value := .atom (.bool b)

/-- An integer, as a value. -/
@[match_pattern] abbrev int (n : Int) : Value := .atom (.int n)

/-- A floating-point number, as a value. -/
@[match_pattern] abbrev float (x : Binary64) : Value := .atom (.float x)

/-- A text, as a value. -/
@[match_pattern] abbrev text (s : String) : Value := .atom (.text s)

/-- A byte string, as a value. -/
@[match_pattern] abbrev bytes (bs : List UInt8) : Value := .atom (.bytes bs)

/-- A compiled regular expression, as a value. -/
@[match_pattern] abbrev pattern (p : Pattern) : Value := .atom (.pattern p)

/-- A list. -/
@[match_pattern] abbrev list (vs : List Value) : Value := .seq .list vs

/-- Whether a value is a list or a tuple. -/
def isSeq : Value → Bool
  | .seq _ _ => true
  | _ => false

/-- **Whether a value counts as true.** Nothing, zero and whatever is
empty do not; a NaN and a pattern do. -/
def isTruthy : Value → Bool
  | .null => false
  | .bool b => b
  | .int n => n != 0
  | .float x => !x.isZero
  | .text s => s != ""
  | .bytes bs => !bs.isEmpty
  | .pattern _ => true
  | .seq _ vs => !vs.isEmpty
  | .doc ms => !ms.isEmpty

end Value

mutual

/-- **The value a key is.** -/
def Key.toValue : Key → Value
  | .atom a => .atom a
  | .tuple ks => .seq .tuple (Key.toValues ks)

/-- The values of a list of keys. -/
def Key.toValues : List Key → List Value
  | [] => []
  | k :: ks => k.toValue :: Key.toValues ks

end

/-- A list of keys becomes the list of their values. -/
theorem Key.toValues_eq_map (ks : List Key) :
    Key.toValues ks = ks.map Key.toValue := by
  induction ks with
  | nil => rfl
  | cons k ks ih => simp [Key.toValues, ih]

@[simp] theorem Key.toValue_text (s : String) :
    (Key.text s).toValue = .text s := rfl

/-! ## Deciding equality -/

mutual

/-- Two keys are the same or not. -/
def Key.decEq : (a b : Key) → Decidable (a = b)
  | .atom a, .atom b => decidable_of_iff (a = b) (by simp)
  | .tuple ks, .tuple ls =>
    match Key.decEqList ks ls with
    | isTrue h => isTrue (by rw [h])
    | isFalse h => isFalse (by simpa using h)
  | .atom _, .tuple _ => isFalse (by simp)
  | .tuple _, .atom _ => isFalse (by simp)

/-- Two lists of keys are the same or not. -/
def Key.decEqList : (as bs : List Key) → Decidable (as = bs)
  | [], [] => isTrue rfl
  | [], _ :: _ => isFalse (by simp)
  | _ :: _, [] => isFalse (by simp)
  | a :: as, b :: bs =>
    match Key.decEq a b, Key.decEqList as bs with
    | isTrue h, isTrue hs => isTrue (by rw [h, hs])
    | isFalse h, _ => isFalse (by simp [h])
    | _, isFalse hs => isFalse (by simp [hs])

end

instance : DecidableEq Key := Key.decEq

mutual

/-- Two values are the same or not. -/
def Value.decEq : (a b : Value) → Decidable (a = b)
  | .atom a, .atom b => decidable_of_iff (a = b) (by simp)
  | .seq f vs, .seq g ws =>
    match (inferInstance : Decidable (f = g)), Value.decEqList vs ws with
    | isTrue h, isTrue hs => isTrue (by rw [h, hs])
    | isFalse h, _ => isFalse (by simp [h])
    | _, isFalse hs => isFalse (by simp [hs])
  | .doc ms, .doc ns =>
    match Value.decEqMembers ms ns with
    | isTrue h => isTrue (by rw [h])
    | isFalse h => isFalse (by simpa using h)
  | .atom _, .seq _ _ => isFalse (by simp)
  | .atom _, .doc _ => isFalse (by simp)
  | .seq _ _, .atom _ => isFalse (by simp)
  | .seq _ _, .doc _ => isFalse (by simp)
  | .doc _, .atom _ => isFalse (by simp)
  | .doc _, .seq _ _ => isFalse (by simp)

/-- Two lists of values are the same or not. -/
def Value.decEqList : (as bs : List Value) → Decidable (as = bs)
  | [], [] => isTrue rfl
  | [], _ :: _ => isFalse (by simp)
  | _ :: _, [] => isFalse (by simp)
  | a :: as, b :: bs =>
    match Value.decEq a b, Value.decEqList as bs with
    | isTrue h, isTrue hs => isTrue (by rw [h, hs])
    | isFalse h, _ => isFalse (by simp [h])
    | _, isFalse hs => isFalse (by simp [hs])

/-- Two lists of members are the same or not. -/
def Value.decEqMembers : (as bs : List (Key × Value)) → Decidable (as = bs)
  | [], [] => isTrue rfl
  | [], _ :: _ => isFalse (by simp)
  | _ :: _, [] => isFalse (by simp)
  | (k, a) :: as, (l, b) :: bs =>
    match Key.decEq k l, Value.decEq a b, Value.decEqMembers as bs with
    | isTrue hk, isTrue h, isTrue hs => isTrue (by rw [hk, h, hs])
    | isFalse hk, _, _ => isFalse (by simp [hk])
    | _, isFalse h, _ => isFalse (by simp [h])
    | _, _, isFalse hs => isFalse (by simp [hs])

end

instance : DecidableEq Value := Value.decEq

end DocFilter
