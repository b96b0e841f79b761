import DocFilter.Script
import DocFilter.Value.Elements
import DocFilter.Value.Equality

/-!
# Sort orders

A sort order is a document of columns and directions, the first column
first. A direction ascends when it equals one or is the word `asc` – but
a truth value is no direction and descends.
-/

namespace DocFilter

namespace SortOrder

/-- **Whether a direction ascends.** -/
def ascends : Value → Bool
  | .bool _ => false
  | v => v.isOne || v == .text "asc"

/-- **The script of a sort order**: one call per column. -/
def script (v : Value) : Script :=
  match v.members with
  | .ok ms => Trail.concat (ms.map fun (k, direction) =>
    Script.send (.order k.toValue (.bool (ascends direction))))
  | .error f => Trail.stop f

end SortOrder

end DocFilter
