import DocFilter.Fault

/-!
# Trails

A **trail** is what a walk leaves behind: items in order and, if the walk
had to stop, the fault that stopped it. Trails are joined end to end;
what would come after a fault is not reached.
-/

namespace DocFilter

/-- **Items in order, and the fault that ends them, if one does.** -/
structure Trail (α : Type) where
  /-- What was left before the end. -/
  items : List α
  /-- Why the walk stopped early. -/
  fault : Option Fault
  deriving DecidableEq

namespace Trail

variable {α : Type}

/-- Nothing. -/
def empty : Trail α := ⟨[], none⟩

/-- One item. -/
def one (a : α) : Trail α := ⟨[a], none⟩

/-- Items without a fault. -/
def ofList (as : List α) : Trail α := ⟨as, none⟩

/-- A fault at once. -/
def stop (f : Fault) : Trail α := ⟨[], some f⟩

/-- **One trail after another.** -/
def append (s t : Trail α) : Trail α :=
  match s.fault with
  | none => ⟨s.items ++ t.items, t.fault⟩
  | some _ => s

instance : Append (Trail α) := ⟨append⟩

/-- Trails one after another. -/
def concat (ts : List (Trail α)) : Trail α := ts.foldr (· ++ ·) empty

/-- The items, unless the trail ends in a fault. -/
def toExcept (t : Trail α) : Except Fault (List α) :=
  match t.fault with
  | none => .ok t.items
  | some f => .error f

theorem append_def (s t : Trail α) :
    s ++ t = match s.fault with
      | none => ⟨s.items ++ t.items, t.fault⟩
      | some _ => s := rfl

@[simp] theorem empty_append (t : Trail α) : empty ++ t = t := rfl

@[simp] theorem append_empty (t : Trail α) : t ++ empty = t := by
  rcases t with ⟨as, _ | f⟩ <;> simp [append_def, empty]

@[simp] theorem stop_append (f : Fault) (t : Trail α) :
    stop f ++ t = stop f := rfl

@[simp] theorem append_assoc (r s t : Trail α) :
    r ++ s ++ t = r ++ (s ++ t) := by
  rcases r with ⟨as, _ | f⟩ <;> rcases s with ⟨bs, _ | g⟩ <;>
    simp [append_def]

@[simp] theorem concat_nil : concat ([] : List (Trail α)) = empty := rfl

@[simp] theorem concat_cons (t : Trail α) (ts : List (Trail α)) :
    concat (t :: ts) = t ++ concat ts := rfl

theorem concat_append (ss ts : List (Trail α)) :
    concat (ss ++ ts) = concat ss ++ concat ts := by
  induction ss with
  | nil => rfl
  | cons s ss ih => simp [ih]

/-- Without a fault, the items are those of both. -/
theorem items_append_of_fault_eq_none {s : Trail α} (h : s.fault = none)
    (t : Trail α) : (s ++ t).items = s.items ++ t.items := by
  simp [append_def, h]

/-! ## Where a trail ends

Trails that leave either items or a fault – never some items and then a
fault – join in a way that can be read off the list: the first fault ends
the whole, and the items are those of the trails before it. -/

/-- The fault of two trails is the first there is. -/
@[simp] theorem fault_append (s t : Trail α) :
    (s ++ t).fault = s.fault.or t.fault := by
  rcases s with ⟨as, _ | f⟩ <;> rfl

/-- **The first fault ends the whole.** -/
theorem fault_concat (ts : List (Trail α)) :
    (concat ts).fault = ts.findSome? fault := by
  induction ts with
  | nil => rfl
  | cons t ts ih =>
    rw [concat_cons, fault_append, ih, List.findSome?_cons]
    cases t.fault <;> rfl

/-- A whole without a fault has only parts without one. -/
theorem fault_concat_eq_none_iff {ts : List (Trail α)} :
    (concat ts).fault = none ↔ ∀ t ∈ ts, t.fault = none := by
  rw [fault_concat, List.findSome?_eq_none_iff]

/-- The trails before the first that ends in a fault. -/
def reached (ts : List (Trail α)) : List (Trail α) :=
  ts.takeWhile fun t => t.fault.isNone

/-- **The items of the whole are those of the trails that are reached**,
where a trail with a fault holds no items of its own. -/
theorem items_concat {ts : List (Trail α)}
    (h : ∀ t ∈ ts, t.fault ≠ none → t.items = []) :
    (concat ts).items = (reached ts).flatMap items := by
  induction ts with
  | nil => rfl
  | cons t ts ih =>
    have hts := ih fun u hu => h u (List.mem_cons_of_mem t hu)
    cases hf : t.fault with
    | none =>
      rw [concat_cons, items_append_of_fault_eq_none hf, hts]
      simp [reached, hf]
    | some f =>
      -- The whole ends here, and here nothing was left before the fault.
      have ht := h t (List.mem_cons_self ..) (by simp [hf])
      simp [append_def, reached, hf, ht]

/-- **Trails without a fault** give all of their items. -/
theorem toExcept_concat {ts : List (Trail α)}
    (h : ∀ t ∈ ts, t.fault = none) :
    (concat ts).toExcept = .ok (ts.flatMap items) := by
  have hitems : (concat ts).items = ts.flatMap items := by
    induction ts with
    | nil => rfl
    | cons t ts ih =>
      have ht := h t (List.mem_cons_self ..)
      rw [concat_cons, items_append_of_fault_eq_none ht,
        ih fun u hu => h u (List.mem_cons_of_mem t hu)]
      rfl
  rw [toExcept, fault_concat_eq_none_iff.mpr h, hitems]

end Trail

end DocFilter
