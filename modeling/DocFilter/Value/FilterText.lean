import DocFilter.Value.Literal

/-!
# Filter text

How an operand is written in a query. The words for nothing and for the
truth values are those of the query language, a whole float loses its
fraction, and a sequence is the comma-joined text of what it holds, so
nesting leaves no trace. All else is displayed. The text within a limit on
digits is `Value.filterTextWithin`.
-/

namespace DocFilter

/-- **The filter text of an atom.** -/
def Atom.filterText : Atom → String
  | .null => "null"
  | .bool true => "true"
  | .bool false => "false"
  | .float x =>
    match x.integer? with
    | some n => toString n
    | none => x.text
  | .text s => s
  | a => a.literal

mutual

/-- **The filter text of a value.** -/
def Value.filterText : Value → String
  | .atom a => a.filterText
  | .seq _ vs => ",".intercalate (Value.filterTexts vs)
  | .doc ms => (Value.doc ms).literal

/-- The filter texts of a list of values. -/
def Value.filterTexts : List Value → List String
  | [] => []
  | v :: vs => v.filterText :: Value.filterTexts vs

end

theorem Value.filterTexts_eq_map (vs : List Value) :
    Value.filterTexts vs = vs.map Value.filterText := by
  induction vs with
  | nil => rfl
  | cons v vs ih => simp [Value.filterTexts, ih]

/-- An item of a written list. A quoted list puts its texts between
double quotes, as they are. -/
def Value.itemText (quoted : Bool) : Value → String
  | .text s => if quoted then "\"" ++ s ++ "\"" else s
  | v => v.filterText

/-- **A written list**: its items between parentheses. -/
def Value.listText (quoted : Bool) (items : List Value) : String :=
  "(" ++ ",".intercalate (items.map (Value.itemText quoted)) ++ ")"

/-- Without quotes an item is its filter text. -/
@[simp] theorem Value.itemText_false (v : Value) :
    v.itemText false = v.filterText := by
  unfold Value.itemText
  split <;> rfl

end DocFilter
