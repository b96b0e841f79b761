import DocFilter.Fault
import DocFilter.Value.Literal

/-!
# Settings

Where a backend is found and how it is entered: an address, a key and a
schema. They are read from an environment, or made for a hosted project
or for a host on the network.

An address and a key that are empty count as not given, and the next
place is asked; a schema that is empty is taken.
-/

namespace DocFilter

/-- **The settings of a backend.** -/
structure Settings where
  /-- The address, or nothing. -/
  url : Value
  /-- The key, or nothing. -/
  key : Value
  /-- The schema. -/
  schema : Value
  deriving DecidableEq

/-- **The variables of an environment**, each set or not. -/
structure Environment where
  /-- The address of a backend. -/
  url : Option String
  /-- The address of a hosted project. -/
  projectUrl : Option String
  /-- The key of a backend. -/
  key : Option String
  /-- The key of a hosted project. -/
  projectKey : Option String
  /-- The schema. -/
  schema : Option String
  deriving DecidableEq

namespace Settings

/-- The schema where none is named. -/
def defaultSchema : String := "public"

/-- What follows the address of a hosted project. -/
def restPath : String := "/rest/v1"

/-- A text without the slashes at its end. -/
def dropSlashes (cs : List Char) : List Char :=
  (cs.reverse.dropWhile (· = '/')).reverse

/-- The address of the backend of a hosted project. -/
def projectUrl (s : String) : String :=
  String.ofList (dropSlashes s.toList) ++ restPath

/-- A text that is set and not empty. -/
def nonempty? : Option String → Option String
  | some s => if s = "" then none else some s
  | none => none

/-- A text, or nothing. -/
def ofText? : Option String → Value
  | some s => .text s
  | none => .null

/-- **The settings an environment holds.** -/
def ofEnvironment (env : Environment) : Settings where
  url :=
    match nonempty? env.url, nonempty? env.projectUrl with
    | some s, _ => .text s
    | none, some s => .text (projectUrl s)
    | none, none => .null
  key := ofText? ((nonempty? env.key).or env.projectKey)
  schema := .text (env.schema.getD defaultSchema)

/-- **The settings of a hosted project.** Its address has to be a text. -/
def ofProject (url key schema : Value) : Except Fault Settings :=
  match url with
  | .text s => .ok ⟨.text (projectUrl s), key, schema⟩
  | .bytes _ => .error .slashInBytes
  | v => .error (.notAddress v.kind)

/-- **The settings of a host**, by its name and number. -/
def ofHost (host number key : Value) : Settings :=
  ⟨.text ("http://" ++ host.display ++ ":" ++ number.display), key,
    .text defaultSchema⟩

/-- The host where none is named. -/
def defaultHost : Value := .text "localhost"

/-- The number where none is given. -/
def defaultNumber : Value := .int 3000

end Settings

end DocFilter
