import DocFilter.Value.Basic

/-!
# Kinds of values

The kind of a value, and the two names a message calls it by: the full
name, and the bare one that a handle is named by.
-/

namespace DocFilter

/-- **The kinds of values.** -/
inductive Kind where
  | null | bool | int | float | text | bytes | list | tuple | doc | pattern
  deriving DecidableEq

namespace Kind

/-- The bare name of a kind. -/
def bareName : Kind → String
  | null => "NoneType"
  | bool => "bool"
  | int => "int"
  | float => "float"
  | text => "str"
  | bytes => "bytes"
  | list => "list"
  | tuple => "tuple"
  | doc => "dict"
  | pattern => "Pattern"

/-- The full name of a kind: a pattern is named with its package. -/
def name : Kind → String
  | pattern => "re.Pattern"
  | k => k.bareName

end Kind

/-- The kind of an atom. -/
def Atom.kind : Atom → Kind
  | .null => .null
  | .bool _ => .bool
  | .int _ => .int
  | .float _ => .float
  | .text _ => .text
  | .bytes _ => .bytes
  | .pattern _ => .pattern

/-- **The kind of a value.** -/
def Value.kind : Value → Kind
  | .atom a => a.kind
  | .seq .list _ => .list
  | .seq .tuple _ => .tuple
  | .doc _ => .doc

/-- The kind of a key. -/
def Key.kind (k : Key) : Kind := k.toValue.kind

end DocFilter
