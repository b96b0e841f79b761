import DocFilter.Builder
import DocFilter.Settings

/-!
# Backends

A **handle** is whatever a search is bound to. It gives a builder for a
resource by one of two accessors, the first that can be called. A handle
that is a client of PostgREST, by its type or by the package it comes
from, spells its calls differently and is put into an **adapter** first.

An adapter holds the accessor it found when it was made, so it can always
ask for a builder; a handle that has none is turned down when it is wrapped,
with the same fault as when it is asked. A handle that is asked may deny a
resource, with a fault of its own; then nothing has reached it.

The clients that settings ask for are made elsewhere. Their maker is an
argument, and nothing is said here of the handles it gives.
-/

namespace DocFilter

/-- What a handle has under the name of an accessor. -/
inductive Access where
  /-- Something that can be called. -/
  | callable
  /-- A value of a kind that cannot be called. -/
  | inert (kind : Kind)
  /-- Nothing. -/
  | missing
  deriving DecidableEq

/-- **A handle.** -/
structure Handle where
  /-- The bare name of its type. -/
  typeName : String
  /-- The full name of its type. -/
  fullName : String
  /-- The dotted name of where its type comes from. -/
  home : String
  /-- What it has under each accessor. -/
  access : Accessor → Access
  /-- The fault that asking an accessor for a resource ends in, if it gives
  no builder. -/
  denial? : Accessor → Value → Option Fault := fun _ _ => none
  /-- Whether its type is a client of PostgREST. -/
  isClient : Bool

namespace Handle

/-- The packages whose types are clients of PostgREST. -/
def vendors : List String := ["postgrest", "supabase"]

/-- The first part of a dotted name. -/
def vendor (home : String) : String :=
  String.ofList (home.toList.takeWhile (· != '.'))

/-- Whether a handle comes from the package of a client. -/
def isVendored (h : Handle) : Bool :=
  vendors.contains (vendor h.home)

/-- **The accessor a handle answers by**: the first that can be called. -/
def accessor? (h : Handle) : Option Accessor :=
  if h.access .source = .callable then some .source
  else if h.access .table = .callable then some .table
  else none

/-- A plain value as a handle. It gives no builder. -/
def ofValue (v : Value) : Handle where
  typeName := v.kind.bareName
  fullName := v.kind.name
  home := "builtins"
  access := fun _ => .missing
  isClient := false

end Handle

/-- **A handle in an adapter**, with the accessor it answers by. -/
structure Adapter where
  /-- The handle. -/
  handle : Handle
  /-- The accessor found when the adapter was made. -/
  accessor : Accessor
  /-- It is the one the handle answers by. -/
  found : handle.accessor? = some accessor

/-- **A backend**: a handle as it is, or one in an adapter. -/
inductive Backend where
  | bare (handle : Handle)
  | adapted (adapter : Adapter)

namespace Backend

/-- The name of the type of a backend. -/
def typeName : Backend → String
  | bare h => h.typeName
  | adapted _ => "PostgrestStore"

/-- The handle that is asked in the end: the one inside an adapter. -/
def handle : Backend → Handle
  | bare h => h
  | adapted a => a.handle

/-- Whether a backend is an adapter. -/
def isAdapted : Backend → Bool
  | bare _ => false
  | adapted _ => true

/-- **A handle put into an adapter**, unless it gives no builder. -/
def wrap (h : Handle) : Except Fault Backend :=
  match found : h.accessor? with
  | some a => .ok (.adapted ⟨h, a, found⟩)
  | none => .error (.noAccessor h.typeName)

/-- **A backend fit for searches**: a client is wrapped, with a note. -/
def adapt : Backend → Run Backend
  | adapted a => Run.ok (adapted a)
  | bare h =>
    if h.isClient || h.isVendored then
      (Run.tell (.wrapping h.typeName)).andThen fun _ =>
        Run.ofExcept (wrap h)
    else Run.ok (bare h)

/-- The accessor a backend answers by, or the fault that it has none. -/
def accessor : Backend → Except Fault Accessor
  | bare h =>
    match h.accessor? with
    | some a => .ok a
    | none => .error (.noAccessor h.typeName)
  | adapted a => .ok a.accessor

/-- The dialect of the builders of a backend. -/
def dialect : Backend → Dialect
  | bare _ => .plain
  | adapted _ => .adapted

/-- A builder for a resource by a given accessor, unless that denies it. -/
def openBy (s : Backend) (a : Accessor) (resource : Value) : Run Builder :=
  match s.handle.denial? a resource with
  | some f => Run.fail f
  | none => ⟨[.opened a resource], [], .ok ⟨s.dialect, 0⟩⟩

/-- **A builder for a resource.** -/
def openResource (s : Backend) (resource : Value) : Run Builder :=
  (Run.ofExcept s.accessor).andThen fun a => s.openBy a resource

/-- A builder for a resource by the accessor of a name. An adapter has
both names for the one accessor it holds. A bare handle has what it has
under the name: only there do its two ways of not answering differ. -/
def openNamed (s : Backend) (a : Accessor) (resource : Value) : Run Builder :=
  match s with
  | bare h =>
    match h.access a with
    | .callable => s.openBy a resource
    | .inert kind => Run.fail (.notCallable kind)
    | .missing => Run.fail (.noMember h.fullName a.name)
  | adapted d => s.openBy d.accessor resource

end Backend

namespace Settings

/-- The headers of a client: the media type either way, and the key, twice,
when there is one. -/
def headers (key : Value) : List (String × Value) :=
  [("Accept", .text "application/json"),
   ("Content-Type", .text "application/json")]
  ++ if key.isTruthy then
      [("apikey", key), ("Authorization", .text ("Bearer " ++ key.display))]
    else []

/-- **A maker of clients**: the handle it gives for an address, a schema and
headers. -/
abbrev ClientMaker := Value → Value → List (String × Value) → Handle

/-- **A backend from settings**: a new client in an adapter. Without an
address none is created. -/
def connect (make : ClientMaker) (s : Settings) : Run Backend :=
  if !s.url.isTruthy then Run.fail .noAddress
  else
    ⟨[.connected s.url s.schema (headers s.key)], [.creating s.url s.schema],
      Backend.wrap (make s.url s.schema (headers s.key))⟩

end Settings

end DocFilter
