import DocFilter.Decimal.Shortest
import DocFilter.Text.Quoted
import DocFilter.Value.Basic

/-!
# Literals

The literal of a value names it unmistakably: texts are quoted, numbers
are written by their shortest digits, and sequences and documents list
the literals of what they hold. The **display** of a value is its
literal, except that a text displays as itself.

An integer is written here however many digits it has; where there is a limit
on them is said in `DocFilter.Value.Digits`.
-/

namespace DocFilter

/-- The literals of a list between brackets. -/
def bracketed (opening closing : String) (items : List String) : String :=
  opening ++ ", ".intercalate items ++ closing

/-- The literals of a tuple. One item alone keeps a comma. -/
def tupleText : List String → String
  | [s] => "(" ++ s ++ ",)"
  | items => bracketed "(" ")" items

/-- The names of the options that are set, in their fixed order. -/
def Flags.names (f : Flags) : List String :=
  (if f.ignoreCase then ["re.IGNORECASE"] else [])
    ++ (if f.multiline then ["re.MULTILINE"] else [])
    ++ (if f.dotAll then ["re.DOTALL"] else [])
    ++ (if f.verbose then ["re.VERBOSE"] else [])
    ++ (if f.ascii then ["re.ASCII"] else [])

/-- How many characters of a quoted source a literal shows. -/
def Pattern.shownSource : Nat := 200

/-- **The literal of a pattern**: the quoted source, cut off when it is
long, and the names of the options. -/
def Pattern.literal (p : Pattern) : String :=
  let cut (s : String) := String.ofList (s.toList.take shownSource)
  match p with
  | .text source flags =>
    let options := flags.names
    "re.compile(" ++ cut (Quoted.ofText source)
      ++ (if options.isEmpty then "" else ", " ++ "|".intercalate options)
      ++ ")"
  | .bytes source => "re.compile(" ++ cut (Quoted.ofBytes source) ++ ")"

/-- **The literal of an atom.** -/
def Atom.literal : Atom → String
  | .null => "None"
  | .bool true => "True"
  | .bool false => "False"
  | .int n => toString n
  | .float x => x.text
  | .text s => Quoted.ofText s
  | .bytes bs => Quoted.ofBytes bs
  | .pattern p => p.literal

mutual

/-- The literal of a key. -/
def Key.literal : Key → String
  | .atom a => a.literal
  | .tuple ks => tupleText (Key.literals ks)

/-- The literals of a list of keys. -/
def Key.literals : List Key → List String
  | [] => []
  | k :: ks => k.literal :: Key.literals ks

end

mutual

/-- **The literal of a value.** -/
def Value.literal : Value → String
  | .atom a => a.literal
  | .seq .list vs => bracketed "[" "]" (Value.literals vs)
  | .seq .tuple vs => tupleText (Value.literals vs)
  | .doc ms => bracketed "\x7b" "\x7d" (Value.memberLiterals ms)

/-- The literals of a list of values. -/
def Value.literals : List Value → List String
  | [] => []
  | v :: vs => v.literal :: Value.literals vs

/-- The literals of the members of a document. -/
def Value.memberLiterals : List (Key × Value) → List String
  | [] => []
  | (k, v) :: ms =>
    (k.literal ++ ": " ++ v.literal) :: Value.memberLiterals ms

end

/-- **The display of a value**: a text is itself, all else its literal. -/
def Value.display : Value → String
  | .text s => s
  | v => v.literal

/-- The display of a key. -/
def Key.display : Key → String
  | .text s => s
  | k => k.literal

mutual

/-- A key has the literal of its value. -/
theorem Key.literal_toValue : (k : Key) → k.toValue.literal = k.literal
  | .atom _ => rfl
  | .tuple ks => by
    simp [Key.toValue, Value.literal, Key.literal, Key.literals_toValues ks]

/-- Keys have the literals of their values. -/
theorem Key.literals_toValues :
    (ks : List Key) → Value.literals (Key.toValues ks) = Key.literals ks
  | [] => rfl
  | k :: ks => by
    simp [Key.toValues, Value.literals, Key.literals, Key.literal_toValue k,
      Key.literals_toValues ks]

end

/-- A key is displayed as its value is. -/
theorem Key.display_toValue (k : Key) : k.toValue.display = k.display := by
  match k with
  | .atom a => cases a <;> rfl
  | .tuple ks => exact Key.literal_toValue (.tuple ks)

end DocFilter
