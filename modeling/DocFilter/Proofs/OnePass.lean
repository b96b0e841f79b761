import Mathlib.Data.List.Defs
import DocFilter.Proofs.Escapes

/-!
# A pattern in one pass

Wildcards are respelled in two passes over a source, one for `.*` and one for
the dots that are left. Reading the source once, from the left, with a look at
the character after each dot, comes to the same
(`LikePattern.rewrite_eq_scan`): what the first pass writes for a `.*` is no dot
for the second to find, and a star that follows no dot is left alone by both.

From one pass it can be told what is written. No dot is; and each character
read is one character written, but for a `.*`, so that the pattern is shorter
by the number of places where a dot stands before a star
(`LikePattern.length_scan_add_wildcards`).

What is read is the **body** of a source, between its anchors, and every source
has one (`LikePattern.isBody_iff`).
-/

namespace DocFilter

namespace LikePattern

/-! ## The body of a source -/

/-- **What the body of a source is**: one `^` is taken off its start, and then
one `$` off the end of what remains, where they stand there. -/
def IsBody (source body : List Char) : Prop :=
  ∃ start finish, source = start ++ (body ++ finish)
    ∧ (start = ['^'] ∨ start = [] ∧ source.head? ≠ some '^')
    ∧ (finish = ['$'] ∨ finish = [] ∧ body.getLast? ≠ some '$')

/-- An anchor at the start is taken off, or there is none. -/
theorem exists_eq_append_dropStart (cs : List Char) :
    ∃ start, cs = start ++ dropStart cs
      ∧ (start = ['^'] ∨ start = [] ∧ cs.head? ≠ some '^') := by
  by_cases h : cs.head? = some '^'
  · obtain ⟨ds, rfl⟩ := List.head?_eq_some_iff.mp h
    exact ⟨['^'], rfl, Or.inl rfl⟩
  · exact ⟨[], (dropStart_of_ne h).symm, Or.inr ⟨rfl, h⟩⟩

/-- An anchor at the end is taken off, or there is none. -/
theorem exists_eq_dropEnd_append (cs : List Char) :
    ∃ finish, cs = dropEnd cs ++ finish
      ∧ (finish = ['$'] ∨ finish = [] ∧ (dropEnd cs).getLast? ≠ some '$') := by
  by_cases h : cs.getLast? = some '$'
  · obtain ⟨ds, rfl⟩ := List.getLast?_eq_some_iff.mp h
    exact ⟨['$'], by rw [dropEnd_concat], Or.inl rfl⟩
  · rw [dropEnd_of_ne h]
    exact ⟨[], (List.append_nil cs).symm, Or.inr ⟨rfl, h⟩⟩

/-- **A source has one body**, and it is what is rewritten. -/
theorem isBody_iff {source body : List Char} :
    IsBody source body ↔ body = dropEnd (dropStart source) := by
  constructor
  · rintro ⟨start, finish, rfl, hstart, hfinish⟩
    have hrest : dropStart (start ++ (body ++ finish)) = body ++ finish := by
      obtain rfl | ⟨rfl, hhead⟩ := hstart
      · rfl
      · exact dropStart_of_ne hhead
    rw [hrest]
    obtain rfl | ⟨rfl, hlast⟩ := hfinish
    · exact (dropEnd_concat body).symm
    · rw [List.append_nil, dropEnd_of_ne hlast]
  · rintro rfl
    obtain ⟨start, hsource, hstart⟩ := exists_eq_append_dropStart source
    obtain ⟨finish, hrest, hfinish⟩ :=
      exists_eq_dropEnd_append (dropStart source)
    exact ⟨start, finish, by rw [← hrest, ← hsource], hstart, hfinish⟩

/-! ## The scan -/

/-- **Reads characters once, from the left.** A dot and a star after it are
written as `%`, any other dot as `_`, and any other character as it is. -/
def scan : List Char → List Char
  | '.' :: '*' :: cs => '%' :: scan cs
  | '.' :: cs => '_' :: scan cs
  | c :: cs => c :: scan cs
  | [] => []

/-- A dot with no star after it is written as `_`. -/
theorem scan_dot_cons {cs : List Char} (h : cs.head? ≠ some '*') :
    scan ('.' :: cs) = '_' :: scan cs := by
  rw [scan]
  rintro ds rfl
  exact h rfl

/-- A character that is no dot is written as it is, whatever follows it. -/
theorem scan_cons_of_ne {c : Char} (h : c ≠ '.') (cs : List Char) :
    scan (c :: cs) = c :: scan cs := by
  rw [scan]
  · exact fun _ hdot _ => h hdot
  · exact h

/-- **Characters are taken as a scan takes them**: a dot and a star at once,
and all others one by one. -/
@[elab_as_elim]
theorem scan_induction {motive : List Char → Prop} (nil : motive [])
    (anyText : ∀ cs, motive cs → motive ('.' :: '*' :: cs))
    (anyChar : ∀ cs, cs.head? ≠ some '*' → motive cs → motive ('.' :: cs))
    (same : ∀ c cs, c ≠ '.' → motive cs → motive (c :: cs))
    (cs : List Char) : motive cs := by
  induction cs using scan.induct with
  | case1 cs ih => exact anyText cs ih
  | case2 cs hstar ih =>
    refine anyChar cs (fun h => ?_) ih
    obtain ⟨ds, hds⟩ := List.head?_eq_some_iff.mp h
    exact hstar ds hds
  | case3 c cs _ hdot ih => exact same c cs hdot ih
  | case4 => exact nil

/-- A dot with no star after it is rewritten by itself. -/
theorem rewrite_dot_cons {cs : List Char} (h : cs.head? ≠ some '*') :
    rewrite ('.' :: cs) = '_' :: rewrite cs := rewrite_append ['.'] h

/-- A character that is no dot stays as it is, whatever follows it. -/
theorem rewrite_cons_of_ne {c : Char} (h : c ≠ '.') (cs : List Char) :
    rewrite (c :: cs) = c :: rewrite cs := by
  -- A star may follow, so that what follows is not rewritten by itself.
  have hanyText : anyText (c :: cs) = c :: anyText cs := by
    rw [anyText]
    exact fun _ hdot _ => h hdot
  rw [rewrite, hanyText, anyChar, List.map_cons, if_neg h]
  rfl

/-- **Two passes are one scan.** -/
theorem rewrite_eq_scan (cs : List Char) : rewrite cs = scan cs := by
  induction cs using scan_induction with
  | nil => rfl
  | anyText cs ih => exact congrArg ('%' :: ·) ih
  | anyChar cs hstar ih =>
    rw [rewrite_dot_cons hstar, ih, scan_dot_cons hstar]
  | same c cs hdot ih =>
    rw [rewrite_cons_of_ne hdot, ih, scan_cons_of_ne hdot]

/-- Dots before a star, dots before a dot, and stars with no dot before
them. -/
example : scan "*..**.*.".toList = "*_%*%_".toList := by decide

/-! ## What is written -/

/-- **No dot is written.** -/
theorem dot_notMem_scan (cs : List Char) : '.' ∉ scan cs := by
  induction cs using scan_induction with
  | nil => exact List.not_mem_nil
  | anyText cs ih => exact List.not_mem_cons_of_ne_of_not_mem (by decide) ih
  | anyChar cs hstar ih =>
    rw [scan_dot_cons hstar]
    exact List.not_mem_cons_of_ne_of_not_mem (by decide) ih
  | same c cs hdot ih =>
    rw [scan_cons_of_ne hdot]
    exact List.not_mem_cons_of_ne_of_not_mem hdot.symm ih

/-- **How often a dot stands before a star.** -/
def wildcards (cs : List Char) : Nat := cs.consecutivePairs.count ('.', '*')

/-- A character that is no dot before a star is not counted. -/
theorem wildcards_cons {c : Char} {cs : List Char}
    (h : c = '.' → cs.head? ≠ some '*') :
    wildcards (c :: cs) = wildcards cs := by
  cases cs with
  | nil => rfl
  | cons d ds =>
    refine List.count_cons_of_ne fun heq => ?_
    obtain ⟨hdot, hstar⟩ := Prod.mk.inj heq
    exact h hdot (congrArg some hstar)

/-- A dot before a star is counted once. -/
theorem wildcards_dot_star (cs : List Char) :
    wildcards ('.' :: '*' :: cs) = wildcards cs + 1 := by
  have hstar : wildcards ('*' :: cs) = wildcards cs :=
    wildcards_cons fun h => absurd h (by decide)
  rw [← hstar]
  exact List.count_cons_self

/-- **One character is written for each that is read**, but for a dot and a
star one instead of two. -/
theorem length_scan_add_wildcards (cs : List Char) :
    (scan cs).length + wildcards cs = cs.length := by
  induction cs using scan_induction with
  | nil => rfl
  | anyText cs ih =>
    rw [scan, wildcards_dot_star, List.length_cons, List.length_cons,
      List.length_cons, ← ih]
    omega
  | anyChar cs hstar ih =>
    rw [scan_dot_cons hstar, wildcards_cons fun _ => hstar, List.length_cons,
      List.length_cons, ← ih, Nat.add_right_comm]
  | same c cs hdot ih =>
    rw [scan_cons_of_ne hdot, wildcards_cons fun h => absurd h hdot,
      List.length_cons, List.length_cons, ← ih, Nat.add_right_comm]

/-! ## The pattern of a source -/

/-- The pattern of a source is a scan of its body. -/
theorem ofSource_eq_scan {source body : List Char} (h : IsBody source body) :
    ofSource source = scan body := by
  rw [isBody_iff.mp h, ← rewrite_eq_scan]
  rfl

/-- **A pattern is made in one pass.** Every source has one body, and its
pattern, whether a text or a compiled expression gives the source, is what one
scan of the body writes. So no dot is in it, and it is shorter than the body by
the number of places where a dot stands before a star. -/
theorem made_in_one_pass (source : String) :
    ∃ (body : List Char) (pattern : String),
      (∀ cs, IsBody source.toList cs ↔ cs = body)
        ∧ (Value.text source).likePattern = .ok pattern
        ∧ (∀ flags,
          (Value.pattern (.text source flags)).likePattern = .ok pattern)
        ∧ pattern.toList = scan body
        ∧ '.' ∉ pattern.toList
        ∧ pattern.length + wildcards body = body.length := by
  obtain ⟨body, hbody⟩ : ∃ body, ∀ cs, IsBody source.toList cs ↔ cs = body :=
    ⟨_, fun _ => isBody_iff⟩
  have hpattern :
      (String.ofList (ofSource source.toList)).toList = scan body := by
    rw [String.toList_ofList, ofSource_eq_scan ((hbody body).mpr rfl)]
  refine ⟨body, String.ofList (ofSource source.toList), hbody, rfl,
    fun _ => rfl, hpattern, ?_, ?_⟩
  · rw [hpattern]
    exact dot_notMem_scan body
  · rw [← String.length_toList, hpattern]
    exact length_scan_add_wildcards body

end LikePattern

end DocFilter
