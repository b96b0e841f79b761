import Mathlib.Data.List.TakeWhile
import DocFilter.Backend

/-!
# What adapting does to a handle

A handle that speaks the dialect of PostgREST is put into an adapter before
it is asked for a resource (`Handle.needsAdapter`), and any other is asked as
it is. Adapting turns nothing down that would have answered, and lets nothing
through that would not: a handle without an accessor is turned down either
when it is wrapped or when it is asked, and the two faults are the same one
(`Backend.adapt_andThen_accessor_of_none`). So what comes of adapting a
backend and asking it can be said without looking at the two places:
`Backend.adapt_openResource_of_some` for a handle that answers,
`Backend.adapt_openResource_of_denied` for one that denies the resource,
`Backend.adapt_openResource_of_none` for one that has no accessor.

The main statement, `Backend.adapted_once`, puts this together and adds when
the builder is an adapted one. The part of it that is about the place a type
comes from is about any text: the first part of a dotted name is a given word
exactly if the name is this word or goes on with a dot behind it
(`Handle.vendor_eq_iff`).
-/

namespace DocFilter

namespace Handle

/-! ## Accessors -/

/-- A handle with an accessor that can be called answers by one. -/
theorem exists_accessor {h : Handle}
    (hopen : h.access .source = .callable ∨ h.access .table = .callable) :
    ∃ a, h.accessor? = some a := by
  unfold accessor?
  by_cases hsource : h.access .source = .callable
  · exact ⟨.source, if_pos hsource⟩
  · have htable := hopen.resolve_left hsource
    exact ⟨.table, by rw [if_neg hsource, if_pos htable]⟩

/-- **The accessor a handle answers by** is the source if that can be called,
and else the table. -/
theorem accessor?_eq_some {h : Handle} {a : Accessor}
    (found : h.accessor? = some a) :
    a = (if h.access .source = .callable then .source else .table)
      ∧ h.access a = .callable := by
  unfold accessor? at found
  split at found
  · next hsource =>
    obtain rfl := Option.some.inj found
    exact ⟨(if_pos hsource).symm, hsource⟩
  · next hsource =>
    split at found
    · next htable =>
      obtain rfl := Option.some.inj found
      exact ⟨(if_neg hsource).symm, htable⟩
    · exact nomatch found

/-- A handle does not answer exactly if no accessor can be called. -/
theorem accessor?_eq_none_iff {h : Handle} :
    h.accessor? = none ↔ ∀ a, h.access a ≠ .callable := by
  constructor
  · intro hnone a ha
    have hopen : h.access .source = .callable ∨ h.access .table = .callable := by
      cases a with
      | source => exact .inl ha
      | table => exact .inr ha
    obtain ⟨b, hb⟩ := exists_accessor hopen
    exact Option.some_ne_none b (hb.symm.trans hnone)
  · intro hclosed
    cases hfound : h.accessor? with
    | none => rfl
    | some a => exact absurd (accessor?_eq_some hfound).2 (hclosed a)

/-! ## Where a handle comes from -/

/-- Characters up to the first dot, if there is one. -/
theorem takeWhile_ne_dot_iff {cs word : List Char} (hword : '.' ∉ word) :
    cs.takeWhile (· != '.') = word
      ↔ cs = word ∨ ∃ rest, cs = word ++ '.' :: rest := by
  have hall : ∀ c ∈ word, (c != '.') = true := fun c hc =>
    bne_iff_ne.mpr fun h => hword (h ▸ hc)
  constructor
  · rintro rfl
    -- What is left begins with the character that ended the word.
    have hcut := List.takeWhile_append_dropWhile (p := (· != '.')) (l := cs)
    have hhead := List.head?_dropWhile_not (· != '.') cs
    cases hrest : cs.dropWhile (· != '.') with
    | nil =>
      rw [hrest, List.append_nil] at hcut
      exact .inl hcut.symm
    | cons c rest =>
      rw [hrest] at hcut hhead
      obtain rfl : c = '.' := by simpa using hhead
      exact .inr ⟨rest, hcut.symm⟩
  · rintro (rfl | ⟨rest, rfl⟩)
    · exact List.takeWhile_eq_self_iff.mpr hall
    · rw [List.takeWhile_append_of_pos hall,
        List.takeWhile_cons_of_neg (by decide), List.append_nil]

/-- **The first part of a dotted name** is a word exactly if the name is this
word, or this word with a dot and anything behind it. -/
theorem vendor_eq_iff {home word : String} (hword : '.' ∉ word.toList) :
    vendor home = word
      ↔ home = word ∨ ∃ rest, home = word ++ "." ++ rest := by
  have hchars : vendor home = word
      ↔ home.toList.takeWhile (· != '.') = word.toList := by
    rw [← String.toList_inj, vendor, String.toList_ofList]
  have hdot (rest : String) :
      (word ++ "." ++ rest).toList = word.toList ++ '.' :: rest.toList := by
    rw [String.toList_append, String.toList_append, List.append_assoc]
    rfl
  rw [hchars, takeWhile_ne_dot_iff hword, String.toList_inj]
  refine or_congr_right ⟨?_, ?_⟩
  · rintro ⟨rest, hrest⟩
    refine ⟨String.ofList rest, String.toList_inj.mp ?_⟩
    rw [hdot, String.toList_ofList, hrest]
  · rintro ⟨rest, rfl⟩
    exact ⟨rest.toList, hdot rest⟩

/-- **A handle comes from the package of a client** exactly if its home is
one of these packages or lies inside of one. -/
theorem isVendored_iff {h : Handle} :
    h.isVendored = true
      ↔ ∃ word ∈ vendors, h.home = word
        ∨ ∃ rest, h.home = word ++ "." ++ rest := by
  have hdots : ∀ word ∈ vendors, '.' ∉ word.toList := by decide
  rw [isVendored, List.contains_iff_mem]
  constructor
  · intro hmem
    exact ⟨_, hmem, (vendor_eq_iff (hdots _ hmem)).mp rfl⟩
  · rintro ⟨word, hmem, hhome⟩
    rwa [(vendor_eq_iff (hdots word hmem)).mpr hhome]

/-- **Whether a handle speaks the dialect of PostgREST**: by its type, or by
the package it comes from. -/
def needsAdapter (h : Handle) : Bool := h.isClient || h.isVendored

end Handle

namespace Backend

/-! ## A backend seen from outside -/

/-- What a backend has under the name of an accessor. An adapter answers by
either name. -/
def access : Backend → Accessor → Access
  | bare h => h.access
  | adapted _ => fun _ => .callable

/-- The notes that adapting a backend leaves: one if a handle is wrapped. -/
def adaptNotes : Backend → List Note
  | bare h => if h.needsAdapter then [.wrapping h.typeName] else []
  | adapted _ => []

/-- The dialect a backend speaks once it is adapted. -/
def adaptedDialect : Backend → Dialect
  | bare h => if h.needsAdapter then .adapted else .plain
  | adapted _ => .adapted

/-- The handle of a backend answers by no accessor exactly if the backend has
none that can be called. -/
theorem accessor?_handle_eq_none_iff {s : Backend} :
    s.handle.accessor? = none ↔ ∀ a, s.access a ≠ .callable := by
  cases s with
  | bare h => exact Handle.accessor?_eq_none_iff
  | adapted d =>
    constructor
    · intro hnone
      exact absurd (d.found.symm.trans hnone) (Option.some_ne_none d.accessor)
    · exact fun hclosed => absurd rfl (hclosed .source)

/-! ## Adapting -/

/-- A handle that answers can be put into an adapter. -/
theorem wrap_of_accessor? {h : Handle} {a : Accessor}
    (found : h.accessor? = some a) :
    wrap h = .ok (.adapted ⟨h, a, found⟩) := by
  unfold wrap
  split
  · next a' found' =>
    obtain rfl : a = a' := Option.some.inj (found.symm.trans found')
    rfl
  · next hnone => exact absurd (found.symm.trans hnone) (Option.some_ne_none a)

/-- A handle that does not answer cannot. -/
theorem wrap_of_accessor?_eq_none {h : Handle} (hnone : h.accessor? = none) :
    wrap h = .error (.noAccessor h.typeName) := by
  unfold wrap
  split
  · next a found =>
    exact absurd (found.symm.trans hnone) (Option.some_ne_none a)
  · rfl

/-- An adapter is used as it is. -/
theorem adapt_adapted (d : Adapter) :
    adapt (.adapted d) = Run.ok (.adapted d) := rfl

/-- A handle that speaks the dialect is wrapped, with a note. -/
theorem adapt_bare_of_needsAdapter {h : Handle}
    (hneeds : h.needsAdapter = true) :
    adapt (.bare h) = ⟨[], [.wrapping h.typeName], wrap h⟩ := by
  show (if h.needsAdapter then _ else Run.ok (bare h)) = _
  rw [if_pos hneeds]
  rfl

/-- Any other is used as it is. -/
theorem adapt_bare_of_not_needsAdapter {h : Handle}
    (hneeds : h.needsAdapter = false) :
    adapt (.bare h) = Run.ok (.bare h) := by
  show (if h.needsAdapter then _ else Run.ok (bare h)) = _
  rw [hneeds]
  rfl

/-- A bare handle asked for its accessor. -/
theorem accessor_bare (h : Handle) :
    accessor (.bare h)
      = match h.accessor? with
        | some a => .ok a
        | none => .error (.noAccessor h.typeName) := rfl

/-- **A backend that answers is adapted**: it gets the same accessor of the
same handle and the dialect it speaks, leaves its notes, and is fit from then
on. -/
theorem adapt_of_some {s : Backend} {a : Accessor}
    (found : s.handle.accessor? = some a) :
    ∃ t, s.adapt = ⟨[], s.adaptNotes, .ok t⟩ ∧ t.accessor = .ok a
      ∧ t.handle = s.handle ∧ t.dialect = s.adaptedDialect := by
  cases s with
  | adapted d =>
    have ha : d.accessor = a := Option.some.inj (d.found.symm.trans found)
    exact ⟨.adapted d, rfl, congrArg Except.ok ha, rfl, rfl⟩
  | bare h =>
    change h.accessor? = some a at found
    cases hneeds : h.needsAdapter with
    | true =>
      refine ⟨.adapted ⟨h, a, found⟩, ?_, rfl, rfl, ?_⟩
      · rw [adapt_bare_of_needsAdapter hneeds, wrap_of_accessor? found,
          adaptNotes, if_pos hneeds]
      · rw [adaptedDialect, if_pos hneeds]
        rfl
    | false =>
      refine ⟨.bare h, ?_, ?_, rfl, ?_⟩
      · rw [adapt_bare_of_not_needsAdapter hneeds, adaptNotes, hneeds]
        rfl
      · rw [accessor_bare, found]
      · rw [adaptedDialect, hneeds]
        rfl

/-- **A backend that answers** is adapted and has its accessor found, and what
comes after goes on from there. -/
theorem adapt_andThen_accessor_of_some {s : Backend} {a : Accessor}
    (found : s.handle.accessor? = some a) {β : Type}
    (next : Backend → Accessor → Run β) :
    ∃ t, t.handle = s.handle ∧ t.dialect = s.adaptedDialect
      ∧ (s.adapt.andThen fun t => (Run.ofExcept t.accessor).andThen (next t))
        = ⟨(next t a).entries, s.adaptNotes ++ (next t a).notes,
            (next t a).result⟩ := by
  obtain ⟨t, hadapt, haccessor, hhandle, hdialect⟩ := adapt_of_some found
  refine ⟨t, hhandle, hdialect, ?_⟩
  rw [hadapt]
  simp [Run.andThen, Run.ofExcept, haccessor]

/-- **A backend that does not answer** is turned down with one fault, by
whichever of the two steps meets it first. Nothing that would come after is
begun. -/
theorem adapt_andThen_accessor_of_none {s : Backend}
    (hnone : s.handle.accessor? = none) {β : Type}
    (next : Backend → Accessor → Run β) :
    (s.adapt.andThen fun t => (Run.ofExcept t.accessor).andThen (next t))
      = ⟨[], s.adaptNotes, .error (.noAccessor s.typeName)⟩ := by
  cases s with
  | adapted d =>
    exact absurd (d.found.symm.trans hnone) (Option.some_ne_none d.accessor)
  | bare h =>
    change h.accessor? = none at hnone
    cases hneeds : h.needsAdapter with
    | true =>
      rw [adapt_bare_of_needsAdapter hneeds, wrap_of_accessor?_eq_none hnone,
        adaptNotes, if_pos hneeds]
      rfl
    | false =>
      rw [adapt_bare_of_not_needsAdapter hneeds, Run.ok_andThen,
        accessor_bare, hnone, adaptNotes, hneeds]
      rfl

/-- What is adapted is used as it is when it is adapted again. -/
theorem adapt_of_adapt {s t : Backend} (h : s.adapt.result = .ok t) :
    t.adapt = Run.ok t := by
  cases s with
  | adapted d =>
    obtain rfl := Except.ok.inj h
    rfl
  | bare h' =>
    cases hneeds : h'.needsAdapter with
    | true =>
      rw [adapt_bare_of_needsAdapter hneeds] at h
      unfold wrap at h
      split at h
      · obtain rfl := Except.ok.inj h
        rfl
      · exact nomatch h
    | false =>
      rw [adapt_bare_of_not_needsAdapter hneeds] at h
      obtain rfl := Except.ok.inj h
      exact adapt_bare_of_not_needsAdapter hneeds

/-! ## Asking for a resource -/

/-- **A backend that answers is asked once**, by the accessor of its handle,
and gives a first builder of the dialect it speaks. -/
theorem adapt_openResource_of_some {s : Backend} {a : Accessor}
    (found : s.handle.accessor? = some a) {resource : Value}
    (hopen : s.handle.denial? a resource = none) :
    (s.adapt.andThen fun t => t.openResource resource)
      = ⟨[.opened a resource], s.adaptNotes, .ok ⟨s.adaptedDialect, 0⟩⟩ := by
  obtain ⟨t, hhandle, hdialect, hopened⟩ :=
    adapt_andThen_accessor_of_some found fun t a => t.openBy a resource
  rw [← hdialect]
  exact hopened.trans (by rw [openBy, hhandle, hopen, List.append_nil])

/-- **A resource that is denied**: the fault is that of the handle, whether or
not it was adapted. -/
theorem adapt_openResource_of_denied {s : Backend} {a : Accessor}
    (found : s.handle.accessor? = some a) {resource : Value} {f : Fault}
    (hdenied : s.handle.denial? a resource = some f) :
    (s.adapt.andThen fun t => t.openResource resource)
      = ⟨[], s.adaptNotes, .error f⟩ := by
  obtain ⟨t, hhandle, -, hopened⟩ :=
    adapt_andThen_accessor_of_some found fun t a => t.openBy a resource
  refine hopened.trans ?_
  rw [openBy, hhandle, hdenied]
  exact congrArg (Run.mk [] · _) (List.append_nil s.adaptNotes)

/-- A backend that does not answer is not asked. -/
theorem adapt_openResource_of_none {s : Backend}
    (hnone : s.handle.accessor? = none) (resource : Value) :
    (s.adapt.andThen fun t => t.openResource resource)
      = ⟨[], s.adaptNotes, .error (.noAccessor s.typeName)⟩ :=
  adapt_andThen_accessor_of_none hnone fun t a => t.openBy a resource

/-- A backend that answers has its accessor found. -/
theorem adapt_accessor_of_some {s : Backend} {a : Accessor}
    (found : s.handle.accessor? = some a) :
    (s.adapt.andThen fun t => Run.ofExcept t.accessor)
      = ⟨[], s.adaptNotes, .ok a⟩ := by
  obtain ⟨t, -, -, hfound⟩ :=
    adapt_andThen_accessor_of_some found fun _ a => Run.ok a
  simp only [Run.andThen_ok] at hfound
  exact hfound.trans (by rw [Run.ok, List.append_nil])

/-- A backend that does not answer has none. -/
theorem adapt_accessor_of_none {s : Backend}
    (hnone : s.handle.accessor? = none) :
    (s.adapt.andThen fun t => Run.ofExcept t.accessor)
      = ⟨[], s.adaptNotes, .error (.noAccessor s.typeName)⟩ := by
  rw [← adapt_andThen_accessor_of_none hnone fun _ a => Run.ok a]
  simp only [Run.andThen_ok]

/-- **When a backend speaks the dialect of PostgREST**: as an adapter, by the
type of its handle, or by where this type comes from. -/
theorem adaptedDialect_eq_adapted_iff {s : Backend} :
    s.adaptedDialect = .adapted
      ↔ s.isAdapted = true ∨ s.handle.isClient = true
        ∨ ∃ word ∈ Handle.vendors, s.handle.home = word
          ∨ ∃ rest, s.handle.home = word ++ "." ++ rest := by
  cases s with
  | adapted d => exact iff_of_true rfl (.inl rfl)
  | bare h =>
    have hneeds : adaptedDialect (.bare h) = .adapted
        ↔ h.needsAdapter = true := by
      by_cases h : h.needsAdapter = true <;> simp [adaptedDialect, h]
    rw [hneeds, Handle.needsAdapter, Bool.or_eq_true, Handle.isVendored_iff]
    exact ⟨.inr, fun h => h.resolve_left Bool.false_ne_true⟩

/-- **A backend is adapted once, and can do then what it could before.**

* What adapting gives is used as it is when it is adapted again: it is the
  same backend, and nothing is told.
* An accessor is found unless the backend has none that can be called. Then
  the fault names the type of the backend itself, whether or not it is to be
  wrapped; it is the same when a resource is asked for, and nobody is asked.
* Otherwise asking for a resource asks the handle once – the one inside, if
  the backend is an adapter – by its source if that can be called and else by
  its table. If the handle denies the resource, its fault is the answer. Else
  what comes back is a builder around a new request. It is an adapted builder
  exactly if the backend is an adapter, or the handle is a client by its type,
  or its type is at home in one of two packages. -/
theorem adapted_once (s : Backend) (resource : Value) :
    let found := s.adapt.andThen fun t => Run.ofExcept t.accessor
    let opened := s.adapt.andThen fun t => t.openResource resource
    (∀ t, s.adapt.result = .ok t → t.adapt = Run.ok t)
      ∧ ((∃ f, found.result = .error f) ↔ ∀ a, s.access a ≠ .callable)
      ∧ (∀ f, found.result = .error f →
        f = .noAccessor s.typeName
          ∧ f.message = s.typeName
            ++ " has no from_() or table() to obtain a query builder"
          ∧ found.entries = []
          ∧ opened.result = .error f ∧ opened.entries = [])
      ∧ ∀ a, found.result = .ok a →
        a = (if s.handle.access .source = .callable then .source else .table)
          ∧ found.entries = []
          ∧ (∀ f, s.handle.denial? a resource = some f →
            opened.result = .error f ∧ opened.entries = [])
          ∧ (s.handle.denial? a resource = none →
            opened.entries = [.opened a resource]
              ∧ ∃ d, opened.result = .ok ⟨d, 0⟩
                ∧ (d = .adapted
                  ↔ s.isAdapted = true ∨ s.handle.isClient = true
                    ∨ ∃ word ∈ ["postgrest", "supabase"],
                      s.handle.home = word
                        ∨ ∃ rest, s.handle.home = word ++ "." ++ rest)) := by
  intro found opened
  refine ⟨fun t => adapt_of_adapt, ?_⟩
  rw [← accessor?_handle_eq_none_iff]
  cases hfound : s.handle.accessor? with
  | none =>
    have hnone : found = _ := adapt_accessor_of_none hfound
    have hopened : opened = _ := adapt_openResource_of_none hfound resource
    rw [hnone, hopened]
    refine ⟨iff_of_true ⟨_, rfl⟩ rfl, fun f hf => ?_, fun _ ha => nomatch ha⟩
    obtain rfl := Except.error.inj hf
    exact ⟨rfl, rfl, rfl, rfl, rfl⟩
  | some a =>
    have hsome : found = _ := adapt_accessor_of_some hfound
    rw [hsome]
    refine ⟨iff_of_false (fun ⟨f, hf⟩ => nomatch hf) (Option.some_ne_none a),
      fun _ hf => (nomatch hf), fun b hb => ?_⟩
    obtain rfl := Except.ok.inj hb
    refine ⟨(Handle.accessor?_eq_some hfound).1, rfl, fun f hf => ?_,
      fun hf => ?_⟩
    · have hopened : opened = _ := adapt_openResource_of_denied hfound hf
      rw [hopened]
      exact ⟨rfl, rfl⟩
    · have hopened : opened = _ := adapt_openResource_of_some hfound hf
      rw [hopened]
      exact ⟨rfl, _, rfl, adaptedDialect_eq_adapted_iff⟩

/-- A handle that comes from a place of a name, and whose source is no
function. -/
def tableHandle (home : String) : Handle where
  typeName := "Client"
  fullName := "Client"
  home := home
  access := fun
    | .source => .inert .text
    | .table => .callable
  isClient := false

/-- Two handles, one from inside a package of clients and one from a place
whose name only begins like it: both answer by their table, and the builder
of the first alone is an adapted one. -/
theorem adapted_once_near_miss :
    let inside : Backend := .bare (tableHandle "supabase._sync.client")
    let beside : Backend := .bare (tableHandle "supabase_auth.client")
    let opened (s : Backend) :=
      s.adapt.andThen fun t => t.openResource (.text "tasks")
    (∃ t, inside.adapt.result = .ok t ∧ t.adapt = Run.ok t
        ∧ t.isAdapted = true)
      ∧ (opened inside).entries = [.opened .table (.text "tasks")]
      ∧ (opened inside).result = .ok ⟨.adapted, 0⟩
      ∧ (opened beside).entries = [.opened .table (.text "tasks")]
      ∧ (opened beside).result = .ok ⟨.plain, 0⟩ := by
  intro inside beside opened
  obtain ⟨hagain, -, -, hinside⟩ := adapted_once inside (.text "tasks")
  obtain ⟨-, -, -, hbeside⟩ := adapted_once beside (.text "tasks")
  obtain ⟨-, -, -, hopened⟩ := hinside .table rfl
  obtain ⟨-, -, -, hopened'⟩ := hbeside .table rfl
  obtain ⟨hentries, d, hresult, hd⟩ := hopened rfl
  obtain ⟨hentries', -⟩ := hopened' rfl
  have hdialect : d = .adapted :=
    hd.mpr (.inr (.inr ⟨"supabase", by decide, .inr ⟨"_sync.client", rfl⟩⟩))
  refine ⟨⟨_, rfl, hagain _ rfl, rfl⟩, hentries, ?_, hentries', rfl⟩
  exact hresult.trans (by rw [hdialect])

end Backend

end DocFilter
