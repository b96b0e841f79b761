import DocFilter.Text.Shortened
import DocFilter.Value.Kind

/-!
# Faults

Why an operation stops. A fault is a cause, not a text; `Fault.message`
is the one place where causes are worded.
-/

namespace DocFilter

/-- **The causes that stop an operation.** -/
inductive Fault where
  /-- A document was needed for its members. -/
  | notDocument (kind : Kind)
  /-- A text was needed to look for the operator mark. -/
  | notMarkable (kind : Kind)
  /-- A text mark was looked for in bytes. -/
  | markInBytes
  /-- A text was needed to take the closing slashes off. -/
  | notAddress (kind : Kind)
  /-- A text slash was looked for in bytes. -/
  | slashInBytes
  /-- A value with elements was needed. -/
  | notIterable (kind : Kind)
  /-- A projection that is no text, document or sequence. -/
  | notProjection
  /-- A projected column, by its position, that is no text. -/
  | notColumn (position : Nat) (kind : Kind)
  /-- A value that cannot be looked up. -/
  | notKey (kind : Kind)
  /-- An offset that no number can be added to. -/
  | notOffset (kind : Kind)
  /-- An object of a named type has no member of that name. -/
  | noMember (owner member : String)
  /-- A value was to be called. -/
  | notCallable (kind : Kind)
  /-- The builder refused a message. -/
  | refused (method : String)
  /-- A handle of a named type gives no builder. -/
  | noAccessor (typeName : String)
  /-- No address was given. -/
  | noAddress
  /-- An integer has more digits than are written. -/
  | tooManyDigits (limit : Nat)
  deriving DecidableEq

namespace Fault

/-- How many bytes of the name of a type are shown. -/
def shownName : Nat := 50

/-- The wording for an object of a named type that lacks a member. A long
name is cut off. -/
def lacks (owner member : String) : String :=
  "'" ++ Shortened.ofText shownName owner ++ "' object has no attribute '"
    ++ member ++ "'"

/-- The wording for an offset of a kind that adds to no number. -/
def offsetMessage : Kind → String
  | .text => "can only concatenate str (not \"int\") to str"
  | .list => "can only concatenate list (not \"int\") to list"
  | .tuple => "can only concatenate tuple (not \"int\") to tuple"
  | .bytes => "can't concat int to bytes"
  | k => "unsupported operand type(s) for +: '" ++ k.name ++ "' and 'int'"

/-- **The text of a fault.** -/
def message : Fault → String
  | notDocument k => lacks k.name "items"
  | notMarkable k => lacks k.name "startswith"
  | markInBytes =>
    "startswith first arg must be bytes or a tuple of bytes, not str"
  | notAddress k => lacks k.name "rstrip"
  | slashInBytes => "a bytes-like object is required, not 'str'"
  | notIterable k => "'" ++ k.name ++ "' object is not iterable"
  | notProjection => "can only join an iterable"
  | notColumn i k =>
    "sequence item " ++ toString i ++ ": expected str instance, "
      ++ k.name ++ " found"
  | notKey k => "unhashable type: '" ++ k.name ++ "'"
  | notOffset k => offsetMessage k
  | noMember owner member => lacks owner member
  | notCallable k => "'" ++ k.name ++ "' object is not callable"
  | refused method => method ++ " rejected"
  | noAccessor typeName =>
    typeName ++ " has no from_() or table() to obtain a query builder"
  | noAddress =>
    "PostgREST URL is required (set POSTGREST_URL or SUPABASE_URL)"
  | tooManyDigits limit =>
    "Exceeds the limit (" ++ toString limit ++ " digits) for integer string "
      ++ "conversion; use sys.set_int_max_str_digits() to increase the limit"

end Fault

end DocFilter
