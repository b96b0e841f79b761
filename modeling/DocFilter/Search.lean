import DocFilter.Backend
import DocFilter.Filter.Document
import DocFilter.Projection
import DocFilter.Report

/-!
# Searches

A **search** holds a filter and is bound to a resource of a backend on
demand. Binding makes the calls in one order: the backend is asked for the
resource, the columns are selected, then the filter's script runs. A
projection that cannot be written is the fault before any of it.

What comes of it is the builder a cursor starts from.
-/

namespace DocFilter

/-- **A filter to bind.** -/
structure Search where
  /-- The filter. -/
  filter : Value
  deriving DecidableEq

namespace Search

/-- A search by its filter. No filter is the empty document. -/
def ofFilter : Value → Search
  | .null => ⟨.doc []⟩
  | v => ⟨v⟩

/-- The text of a search. -/
def text (s : Search) : String := "Query(" ++ s.filter.literal ++ ")"

/-- What the filter of a search leaves out. -/
def omissions (s : Search) : Except Fault (List Omission) :=
  s.filter.omissions

/-- The script of the filter; a filter that counts as false asks for
nothing. -/
def script (s : Search) : Script :=
  if s.filter.isTruthy then Filter.script s.filter else Trail.empty

/-- **Binds a search to a resource of a backend.** -/
def bindTo (refuses : Refusals) (s : Search) (backend : Backend)
    (resource projection : Value) : Run Builder := do
  let columns ← Run.ofExcept (Projection.columns projection)
  Run.tell (.binding resource columns)
  let backend ← backend.adapt
  let builder ← backend.openResource resource
  let builder ← builder.call refuses (.select (.text columns))
  s.script.run refuses builder

end Search

end DocFilter
