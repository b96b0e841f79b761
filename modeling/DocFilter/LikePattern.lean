import DocFilter.Value.Digits
import DocFilter.Value.Elements

/-!
# LIKE patterns

A simple regular expression as a pattern of the `LIKE` test, in which
`%` stands for any text and `_` for any one character. One anchor is
taken off either end; then every `.*` becomes `%`, and every dot that is
left becomes `_`. Nothing else is looked at.
-/

namespace DocFilter

namespace LikePattern

/-- A source without one anchor at its start. -/
def dropStart : List Char → List Char
  | '^' :: cs => cs
  | cs => cs

/-- A source without one anchor at its end. -/
def dropEnd (cs : List Char) : List Char :=
  if cs.getLast? = some '$' then cs.dropLast else cs

/-- Every `.*`, from the left, becomes `%`. -/
def anyText : List Char → List Char
  | '.' :: '*' :: cs => '%' :: anyText cs
  | c :: cs => c :: anyText cs
  | [] => []

/-- Every dot becomes `_`. -/
def anyChar (cs : List Char) : List Char :=
  cs.map fun c => if c = '.' then '_' else c

/-- **The pattern of a source.** -/
def ofSource (cs : List Char) : List Char :=
  anyChar (anyText (dropEnd (dropStart cs)))

/-- The pattern that looks for a source anywhere in a text. -/
def anywhere (pattern : String) : String := "%" ++ pattern ++ "%"

end LikePattern

/-- **The source a value gives for a regular expression**: that of a
pattern, else the display of the value. A source over bytes has no text
anchors to take off. -/
def Value.regexSource : Value → Except Fault String
  | .pattern (.text source _) => .ok source
  | .pattern (.bytes _) => .error .markInBytes
  | v => .ok v.display

/-- **The LIKE pattern a value gives.** -/
def Value.likePattern (v : Value) : Except Fault String :=
  v.regexSource.map fun s => String.ofList (LikePattern.ofSource s.toList)

/-- **The LIKE pattern a value gives within a limit on digits**, since the
source may be its display. -/
def Value.likePatternWithin (limit : DigitLimit) (v : Value) :
    Except Fault String :=
  limit.guard [v] v.likePattern

end DocFilter
