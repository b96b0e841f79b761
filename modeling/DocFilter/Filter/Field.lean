import DocFilter.Condition
import DocFilter.LikePattern
import DocFilter.Script

/-!
# Filters on one field

The calls that one field asks for. A plain value asks for equality, an
operator document for one call per test, in order. A test that no call
stands for, or that lacks the list it needs, leaves a note instead.
-/

namespace DocFilter

namespace Filter

/-- A column that equals a value; nothing is tested for by `is`. -/
def equality (column : Value) : Value → Call
  | .null => .is column .null
  | v => .compare .eq column v

/-- A column that differs from a value. -/
def difference (column : Value) : Value → Call
  | .null => .not column (.text "is") .null
  | v => .compare .neq column v

/-- A column that holds something, or nothing. -/
def presence (column : Value) (wanted : Bool) : Call :=
  if wanted then .not column (.text "is") .null else .is column .null

/-- **The script of one test.** -/
def testScript (column : Value) (tag : Key) (operand : Value) : Script :=
  match tag.operator? with
  | some .eq => Script.send (equality column operand)
  | some .ne => Script.send (difference column operand)
  | some .gt => Script.send (.compare .gt column operand)
  | some .gte => Script.send (.compare .gte column operand)
  | some .lt => Script.send (.compare .lt column operand)
  | some .lte => Script.send (.compare .lte column operand)
  | some .inList =>
    match operand with
    | .seq _ vs => Script.send (.isIn column (.list vs))
    | _ => Script.tell (.inWithoutList column)
  | some .notInList =>
    match operand with
    | .seq _ vs =>
      Script.send (.not column (.text "in") (.text (Value.listText true vs)))
    | _ => Script.tell (.notInWithoutList column)
  | some .regex =>
    match operand.likePattern with
    | .ok p =>
      Script.send (.ilike column (.text (LikePattern.anywhere p)))
    | .error f => Trail.stop f
  | some .present => Script.send (presence column operand.isTruthy)
  | _ => Script.tell (.noCall tag column)

/-- **The script of a field.** -/
def fieldScript (column v : Value) : Script :=
  match v.condition with
  | .plain v => Script.send (equality column v)
  | .operators tests =>
    Trail.concat (tests.map fun (tag, operand) =>
      testScript column tag operand)

end Filter

end DocFilter
