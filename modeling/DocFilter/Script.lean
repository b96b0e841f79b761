import DocFilter.Call
import DocFilter.Note
import DocFilter.Trail

/-!
# Scripts

A **script** is what a filter, an order or a paging step asks of a
builder: calls to make and notes to leave, in order, up to a fault if
there is one. A script says nothing about the builder it will run on.
-/

namespace DocFilter

/-- **One step of a script.** -/
inductive Step where
  /-- Make a call, and go on with the builder it gives. -/
  | send (call : Call)
  /-- Leave a note. -/
  | tell (note : Note)
  deriving DecidableEq

/-- **Steps in order, up to a fault if there is one.** -/
abbrev Script := Trail Step

namespace Script

/-- The script of one call. -/
def send (call : Call) : Script := Trail.one (.send call)

/-- The script of one note. -/
def tell (note : Note) : Script := Trail.one (.tell note)

/-- The script of some notes. -/
def tellAll (notes : List Note) : Script := Trail.ofList (notes.map .tell)

/-- The calls of a script, in order. -/
def calls (s : Script) : List Call :=
  s.items.filterMap fun
    | .send c => some c
    | .tell _ => none

/-- The notes of a script, in order. -/
def notes (s : Script) : List Note :=
  s.items.filterMap fun
    | .send _ => none
    | .tell n => some n

end Script

end DocFilter
