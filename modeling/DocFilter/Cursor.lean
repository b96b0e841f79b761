import DocFilter.Script
import DocFilter.SortOrder

/-!
# Cursors

A cursor goes on from the builder a search was bound to. What it can be
asked for – an order, a page, a limit, a range – is a script of its own,
made before the builder is touched: an offset that is no number is the
fault before any call.
-/

namespace DocFilter

/-- **What a cursor can be asked for.** -/
inductive CursorOp where
  /-- The rows in an order. -/
  | sort (order : Value)
  /-- A page of rows from an offset on. -/
  | page (offset : Value)
  /-- At most so many rows. -/
  | limit (count : Value)
  /-- The rows between two positions. -/
  | range (first last : Value)
  deriving DecidableEq

namespace CursorOp

/-- The rows of a page. -/
def pageRows : Int := 1000

/-- **The last row of the page at an offset**: the page size is added and
one is taken off, in that order, which shows in a float. A truth value
counts as a number. -/
def pageEnd : Value → Except Fault Value
  | .bool b => .ok (.int ((if b then 1 else 0) + pageRows - 1))
  | .int n => .ok (.int (n + pageRows - 1))
  | .float x => .ok (.float ((x.addInt pageRows).addInt (-1)))
  | v => .error (.notOffset v.kind)

/-- **The script of an operation.** -/
def script : CursorOp → Script
  | sort order => SortOrder.script order
  | page offset =>
    match pageEnd offset with
    | .ok last => Script.send (.range offset last)
    | .error f => Trail.stop f
  | limit count => Script.send (.limit count)
  | range first last => Script.send (.range first last)

end CursorOp

end DocFilter
