import DocFilter.Fault

/-!
# Reading a value as something else

A value as a key, as the members of a document, as a run of elements –
each with the fault that says what was needed.
-/

namespace DocFilter

mutual

/-- **The key a value is.** A list or a document is none, nor a tuple
that holds one; the first one met is named. -/
def Value.toKey : Value → Except Fault Key
  | .atom a => .ok (.atom a)
  | .seq .tuple vs => (Value.toKeys vs).map Key.tuple
  | .seq .list _ => .error (.notKey .list)
  | .doc _ => .error (.notKey .doc)

/-- The keys a list of values are. -/
def Value.toKeys : List Value → Except Fault (List Key)
  | [] => .ok []
  | v :: vs => v.toKey.bind fun k => (Value.toKeys vs).map (k :: ·)

end

mutual

/-- A key read as a value is that key. -/
theorem Key.toKey_toValue : (k : Key) → k.toValue.toKey = .ok k
  | .atom _ => rfl
  | .tuple ks => by
    simp [Key.toValue, Value.toKey, Key.toKeys_toValues ks, Except.map]

/-- Keys read as values are those keys. -/
theorem Key.toKeys_toValues :
    (ks : List Key) → Value.toKeys (Key.toValues ks) = .ok ks
  | [] => rfl
  | k :: ks => by
    simp [Key.toValues, Value.toKeys, Key.toKey_toValue k,
      Key.toKeys_toValues ks, Except.bind, Except.map]

end

/-- **The members of a document.** -/
def Value.members : Value → Except Fault (List (Key × Value))
  | .doc ms => .ok ms
  | v => .error (.notDocument v.kind)

/-- **The elements of a value**: those of a sequence, the characters of a
text, the numbers of a byte string, the keys of a document. -/
def Value.elements : Value → Except Fault (List Value)
  | .seq _ vs => .ok vs
  | .doc ms => .ok (ms.map fun (k, _) => k.toValue)
  | .text s => .ok (s.toList.map fun c => .text (String.singleton c))
  | .bytes bs => .ok (bs.map fun b => .int b.toNat)
  | v => .error (.notIterable v.kind)

@[simp] theorem Value.elements_seq (f : SeqForm) (vs : List Value) :
    (Value.seq f vs).elements = .ok vs := rfl

@[simp] theorem Value.members_doc (ms : List (Key × Value)) :
    (Value.doc ms).members = .ok ms := rfl

end DocFilter
