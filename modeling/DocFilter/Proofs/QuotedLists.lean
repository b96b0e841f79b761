import Mathlib.Data.List.Infix
import DocFilter.Filter.Field
import DocFilter.Proofs.NumberText

/-!
# What quotes keep together

A list of texts and integers is written with its texts in quotes, as they
are: a quote inside a text is written like the quotes around it. So a text
can hold what ends it. A reader who takes the first quote for the end of a
text reads `a","b` as two texts, and cannot know better, since these two
are written just so.

Not every quote misleads. Behind the end of a text stand some integers, each
with its comma, and then the next text or the end of the list; and only a
quote with just that behind it can be taken for an end
(`ListItem.CutBefore`). If all texts are whole (`ListItem.Whole`), a list
can be told from its written form, whatever else the texts hold – commas,
parentheses, digits, other quotes (`ListItem.quotedText_append_inj`). With a
text that is cut there are always two lists that are written alike
(`ListItem.CutBefore.share`).

The argument for the first: an item is read off the front of what is
written. An integer ends where its characters do. If of two texts one went
on where the other ends, it would hold the quote that ends the other and,
behind it, what the other list goes on with, up to a quote; and that is
being cut (`ListItem.cut_of_tailChars`).
-/

namespace DocFilter

/-- **An item of a list**: a text or an integer. -/
inductive ListItem where
  | text (s : String)
  | int (n : Int)
  deriving DecidableEq

namespace ListItem

/-- The value an item is. -/
def toValue : ListItem → Value
  | text s => .text s
  | int n => .int n

/-- **A list with its texts in quotes.** -/
def quotedText (is : List ListItem) : String :=
  Value.listText true (is.map toValue)

/-- The characters of integers that stand behind an item, each with its
comma. -/
def runChars (ns : List Int) : List Char :=
  ns.flatMap fun n => ',' :: (toString n).toList

/-- What a list goes on with if its next item is a text. -/
def nextText : List Char := [',', '"']

/-- What a list ends with. -/
def listEnd : List Char := [')']

/-- **Whether a text is cut short** by a quote inside it: with nothing but
integers between that quote and what a list may go on with. The quote that
the list goes on with may be the one that is written behind the text. -/
def CutBefore (next : List Char) : ListItem → Prop
  | text s => ∃ ns, '"' :: (runChars ns ++ next) <:+: s.toList ++ ['"']
  | int _ => False

/-- **Whether an item is whole**: not cut before anything that a list is
taken to go on with. -/
def Whole (nexts : List (List Char)) (i : ListItem) : Prop :=
  ∀ next ∈ nexts, ¬i.CutBefore next

/-- **Whether a text has no quote right before** a comma or a closing
parenthesis. -/
def Plain : ListItem → Prop
  | text s => ∀ c ∈ [',', ')'], ¬['"', c] <:+: s.toList
  | int _ => True

instance : DecidablePred Plain
  | text s => List.decidableBAll (fun c => ¬['"', c] <:+: s.toList) [',', ')']
  | int _ => inferInstanceAs (Decidable True)

/-- A text that is cut has a quote right before a comma or a closing
parenthesis. -/
theorem Plain.whole {i : ListItem} (hi : i.Plain)
    {nexts : List (List Char)} (hnexts : nexts ⊆ [nextText, listEnd]) :
    i.Whole nexts := by
  intro next hnext
  cases i with
  | int n => exact id
  | text s =>
    rintro ⟨ns, hns⟩
    obtain ⟨c, cs, rfl, hc⟩ : ∃ c cs, next = c :: cs ∧ c ∈ [',', ')'] := by
      obtain rfl | rfl : next = nextText ∨ next = listEnd := by
        simpa using hnexts hnext
      · exact ⟨',', ['"'], rfl, by decide⟩
      · exact ⟨')', [], rfl, by decide⟩
    have hquote : ∃ d ∈ [',', ')'], ['"', d] <:+: s.toList ++ ['"'] := by
      cases ns with
      | nil => exact ⟨c, hc, .trans ⟨[], cs, rfl⟩ hns⟩
      | cons n ns => exact ⟨',', by decide, .trans ⟨[], _, rfl⟩ hns⟩
    obtain ⟨d, hd, hin⟩ := hquote
    obtain ⟨a, hend⟩ | hin := List.infix_concat_iff.mp hin
    · have hdq : d = '"' := by
        have hlast := congrArg List.getLast? hend
        simpa using hlast
      exact absurd hd (hdq ▸ by decide)
    · exact hi d hd hin

/-! ## Written lists -/

/-- The characters of a written item. -/
def chars : ListItem → List Char
  | text s => '"' :: (s.toList ++ ['"'])
  | int n => (toString n).toList

/-- What is written behind an item, up to the end of the list. -/
def tailChars : List ListItem → List Char
  | [] => [')']
  | i :: is => ',' :: (i.chars ++ tailChars is)

/-- What is written behind the opening parenthesis. -/
def bodyChars : List ListItem → List Char
  | [] => [')']
  | i :: is => i.chars ++ tailChars is

/-- The text of an item. -/
theorem toList_itemText (i : ListItem) :
    (i.toValue.itemText true).toList = i.chars := by
  cases i with
  | text s =>
    show ("\"" ++ s ++ "\"").toList = _
    rw [String.toList_append, String.toList_append]
    rfl
  | int n => rfl

/-- Items joined by commas, and the end of the list. -/
theorem intercalate_chars (i : ListItem) (is : List ListItem) :
    [','].intercalate ((i :: is).map chars) ++ [')']
      = i.chars ++ tailChars is := by
  induction is generalizing i with
  | nil => simp [tailChars]
  | cons j js ih =>
    rw [List.map_cons, List.map_cons, List.intercalate_cons_cons,
      List.append_assoc, List.append_assoc, ← List.map_cons, ih j]
    rfl

/-- **The characters of a written list.** -/
theorem toList_quotedText (is : List ListItem) :
    (quotedText is).toList = '(' :: bodyChars is := by
  rw [quotedText, Value.listText, String.toList_append,
    String.toList_append, String.toList_intercalate, List.map_map,
    List.map_map]
  have hitems : is.map ((String.toList ∘ Value.itemText true) ∘ toValue)
      = is.map chars :=
    List.map_congr_left fun i _ => i.toList_itemText
  rw [hitems]
  show '(' :: ([','].intercalate (is.map chars) ++ [')']) = _
  cases is with
  | nil => rfl
  | cons i is => rw [intercalate_chars]; rfl

theorem tailChars_ne_nil (is : List ListItem) : tailChars is ≠ [] := by
  cases is with
  | nil => exact List.cons_ne_nil _ _
  | cons i is => exact List.cons_ne_nil _ _

theorem runChars_cons (n : Int) (ns : List Int) :
    runChars (n :: ns) = ',' :: ((toString n).toList ++ runChars ns) :=
  rfl

/-- Integers behind an item. -/
theorem tailChars_run (ns : List Int) (is : List ListItem) :
    tailChars (ns.map int ++ is) = runChars ns ++ tailChars is := by
  induction ns with
  | nil => rfl
  | cons n ns ih =>
    rw [List.map_cons, List.cons_append, tailChars, ih, runChars_cons,
      List.cons_append, List.append_assoc]
    rfl

/-! ## Written integers -/

/-- A quote stands behind a written integer, not in it. -/
theorem prefix_of_quote_prefix {n : Int} {w r : List Char}
    (h : w ++ ['"'] <+: (toString n).toList ++ r) :
    ∃ w', w = (toString n).toList ++ w' ∧ w' ++ ['"'] <+: r := by
  have hquote : '"' ∉ (toString n).toList :=
    fun hin => absurd (isNumeral_toString n _ hin) (by decide)
  have hin {l : List Char} (hl : w ++ ['"'] <+: l) : '"' ∈ l :=
    hl.subset (List.mem_append_right w (List.mem_singleton_self _))
  obtain hshort | hlong := List.prefix_or_prefix_of_prefix h
    (List.prefix_append (toString n).toList r)
  · exact absurd (hin hshort) hquote
  · obtain heq | ⟨w', rfl⟩ := List.prefix_concat_iff.mp hlong
    · exact absurd (hin (heq ▸ List.prefix_rfl)) hquote
    · rw [List.append_assoc, List.prefix_append_right_inj] at h
      exact ⟨w', rfl, h⟩

/-- An integer ends where what follows it begins. -/
theorem takeWhile_isNumeral (n : Int) (is : List ListItem) (u : List Char) :
    ((toString n).toList ++ (tailChars is ++ u)).takeWhile isNumeral
      = (toString n).toList := by
  have hstop : (tailChars is ++ u).takeWhile isNumeral = [] := by
    cases is with
    | nil => exact List.takeWhile_cons_of_neg (by decide)
    | cons i is => exact List.takeWhile_cons_of_neg (by decide)
  rw [List.takeWhile_append_of_pos (isNumeral_toString n), hstop,
    List.append_nil]

/-- **An integer is read off the front.** -/
theorem int_append_inj {m n : Int} {is js : List ListItem} {u v : List Char}
    (h : (toString m).toList ++ (tailChars is ++ u)
      = (toString n).toList ++ (tailChars js ++ v)) :
    m = n ∧ tailChars is ++ u = tailChars js ++ v := by
  have hchars : (toString m).toList = (toString n).toList := by
    rw [← takeWhile_isNumeral m is u, h, takeWhile_isNumeral n js v]
  rw [hchars] at h
  exact ⟨eq_of_toList_toString_eq hchars, List.append_cancel_left h⟩

/-- A written integer begins as a number does. -/
theorem exists_toString_eq_cons (n : Int) :
    ∃ c cs, (toString n).toList = c :: cs ∧ isNumeral c = true := by
  have hne : (toString n).toList ≠ [] := by
    rw [Int.toString_eq_repr, Ne, String.toList_eq_nil_iff]
    cases n with
    | ofNat m => exact Nat.repr_ne_empty
    | negSucc m =>
      show "-" ++ m.succ.repr ≠ ""
      rw [Ne, String.append_eq_empty_iff]
      exact fun h => Nat.repr_ne_empty h.2
  obtain ⟨c, cs, hcs⟩ := List.exists_cons_of_ne_nil hne
  refine ⟨c, cs, hcs, isNumeral_toString n c ?_⟩
  rw [hcs]
  exact List.mem_cons_self ..

/-- A written integer begins with no other character. -/
theorem toString_append_ne {c : Char} (hc : isNumeral c = false) (n : Int)
    (q cs : List Char) : (toString n).toList ++ q ≠ c :: cs := by
  obtain ⟨d, ds, hds, hd⟩ := exists_toString_eq_cons n
  rw [hds]
  intro h
  obtain ⟨rfl, -⟩ := List.cons.inj h
  exact Bool.false_ne_true (hc.symm.trans hd)

/-- No item begins like the end of the list. -/
theorem chars_append_ne (i : ListItem) (r u : List Char) :
    i.chars ++ r ≠ ')' :: u := by
  cases i with
  | text s => exact fun h => absurd (List.cons.inj h).1 (by decide)
  | int n => exact toString_append_ne rfl n r u

/-! ## Reading off the front

The list is taken to go on with a text, and, unless nothing stands behind
it, to end. -/

section Reading

variable {nexts : List (List Char)} (htext : nextText ∈ nexts)
  {u v : List Char} (hu : listEnd ∈ nexts ∨ u = [])
  (hv : listEnd ∈ nexts ∨ v = [])

include htext hu

/-- **A quote in what is written behind an item** has integers before it,
and then the next text or the end of the list. -/
theorem cut_of_tailChars {is : List ListItem} {w : List Char}
    (h : w ++ ['"'] <+: tailChars is ++ u) :
    ∃ next ∈ nexts, ∃ ns, runChars ns ++ next <+: w ++ ['"'] := by
  induction is generalizing w with
  | nil =>
    cases w with
    | nil => exact absurd (List.cons_prefix_cons.mp h).1 (by decide)
    | cons c w =>
      obtain ⟨rfl, hw⟩ := List.cons_prefix_cons.mp h
      obtain hend | rfl := hu
      · exact ⟨_, hend, [], w ++ ['"'], rfl⟩
      · exact absurd (List.prefix_nil.mp hw) (by simp)
  | cons i is ih =>
    cases w with
    | nil => exact absurd (List.cons_prefix_cons.mp h).1 (by decide)
    | cons c w =>
      obtain ⟨rfl, hw⟩ := List.cons_prefix_cons.mp h
      cases i with
      | text s =>
        refine ⟨_, htext, [], ?_⟩
        cases w with
        | nil => exact List.prefix_rfl
        | cons d w =>
          obtain ⟨rfl, -⟩ := List.cons_prefix_cons.mp hw
          exact ⟨w ++ ['"'], rfl⟩
      | int n =>
        have hdigits : w ++ ['"']
            <+: (toString n).toList ++ (tailChars is ++ u) :=
          List.append_assoc .. ▸ hw
        obtain ⟨w, rfl, hrest⟩ := prefix_of_quote_prefix hdigits
        obtain ⟨next, hnext, ns, hns⟩ := ih hrest
        refine ⟨next, hnext, n :: ns, ?_⟩
        rw [runChars_cons, List.cons_append, List.append_assoc,
          List.cons_append, List.append_assoc, List.cons_prefix_cons,
          List.prefix_append_right_inj]
        exact ⟨rfl, hns⟩

/-- **A text that is not cut ends at the first quote that could end it.** -/
theorem eq_nil_of_quote {s w q : List Char} {t : String}
    (ht : (text t).Whole nexts) (hst : t.toList = s ++ w)
    {is : List ListItem}
    (h : '"' :: (tailChars is ++ u) = w ++ '"' :: q) : w = [] := by
  obtain ⟨rfl, -⟩ | ⟨w, rfl, hrest⟩ := List.cons_eq_append_iff.mp h
  · rfl
  · exfalso
    rw [List.append_cons] at hrest
    obtain ⟨next, hnext, ns, r, hr⟩ :=
      cut_of_tailChars htext hu ⟨q, hrest.symm⟩
    refine ht next hnext ⟨ns, s, r, ?_⟩
    rw [hst, List.append_assoc, List.append_assoc, List.cons_append, hr]
    rfl

include hv

/-- **A text is read off the front.** -/
theorem text_append_inj {s t : String} (hs : (text s).Whole nexts)
    (ht : (text t).Whole nexts) {is js : List ListItem}
    (h : s.toList ++ '"' :: (tailChars is ++ u)
      = t.toList ++ '"' :: (tailChars js ++ v)) :
    s = t ∧ tailChars is ++ u = tailChars js ++ v := by
  have hst : s.toList = t.toList := by
    obtain ⟨w, hw, hrest⟩ | ⟨w, hw, hrest⟩ := List.append_eq_append_iff.mp h
    · rw [hw, eq_nil_of_quote htext hu ht hw hrest, List.append_nil]
    · rw [hw, eq_nil_of_quote htext hv hs hw hrest, List.append_nil]
  rw [hst] at h
  exact ⟨String.toList_inj.mp hst,
    (List.cons.inj (List.append_cancel_left h)).2⟩

/-- **An item is read off the front.** -/
theorem item_append_inj {i j : ListItem} (hi : i.Whole nexts)
    (hj : j.Whole nexts) {is js : List ListItem}
    (h : i.chars ++ (tailChars is ++ u) = j.chars ++ (tailChars js ++ v)) :
    i = j ∧ tailChars is ++ u = tailChars js ++ v := by
  cases i with
  | text s =>
    cases j with
    | text t =>
      have hbody : s.toList ++ '"' :: (tailChars is ++ u)
          = t.toList ++ '"' :: (tailChars js ++ v) := by
        have hcons : s.toList ++ ['"'] ++ (tailChars is ++ u)
            = t.toList ++ ['"'] ++ (tailChars js ++ v) :=
          (List.cons.inj h).2
        rwa [← List.append_cons, ← List.append_cons] at hcons
      obtain ⟨rfl, htail⟩ := text_append_inj htext hu hv hi hj hbody
      exact ⟨rfl, htail⟩
    | int n => exact absurd h.symm (toString_append_ne rfl n _ _)
  | int m =>
    cases j with
    | text t => exact absurd h (toString_append_ne rfl m _ _)
    | int n =>
      obtain ⟨rfl, htail⟩ := int_append_inj h
      exact ⟨rfl, htail⟩

/-- The items behind an item are read off the front. -/
theorem tailChars_append_inj {is js : List ListItem}
    (his : ∀ i ∈ is, i.Whole nexts) (hjs : ∀ j ∈ js, j.Whole nexts)
    (h : tailChars is ++ u = tailChars js ++ v) : is = js ∧ u = v := by
  induction is generalizing js with
  | nil =>
    cases js with
    | nil => exact ⟨rfl, (List.cons.inj h).2⟩
    | cons j js => exact absurd (List.cons.inj h).1 (by decide)
  | cons i is ih =>
    cases js with
    | nil => exact absurd (List.cons.inj h).1 (by decide)
    | cons j js =>
      have hitems : i.chars ++ tailChars is ++ u
          = j.chars ++ tailChars js ++ v := (List.cons.inj h).2
      rw [List.append_assoc, List.append_assoc] at hitems
      obtain ⟨rfl, htail⟩ := item_append_inj htext hu hv
        (his i (List.mem_cons_self ..)) (hjs j (List.mem_cons_self ..)) hitems
      obtain ⟨rfl, huv⟩ := ih
        (fun k hk => his k (List.mem_cons_of_mem i hk))
        (fun k hk => hjs k (List.mem_cons_of_mem i hk)) htail
      exact ⟨rfl, huv⟩

/-- **A list is read off the front**, if no text is cut before the next
text: the written form tells the items and, where none is cut before the end
of the list, what is written behind it. -/
theorem quotedText_append_inj {is js : List ListItem}
    (his : ∀ i ∈ is, i.Whole nexts) (hjs : ∀ j ∈ js, j.Whole nexts)
    (h : (quotedText is).toList ++ u = (quotedText js).toList ++ v) :
    is = js ∧ u = v := by
  rw [toList_quotedText, toList_quotedText] at h
  have hbody : bodyChars is ++ u = bodyChars js ++ v := (List.cons.inj h).2
  cases is with
  | nil =>
    cases js with
    | nil => exact ⟨rfl, (List.cons.inj hbody).2⟩
    | cons j js =>
      rw [bodyChars.eq_def (j :: js), List.append_assoc] at hbody
      exact absurd hbody.symm (chars_append_ne j _ _)
  | cons i is =>
    cases js with
    | nil =>
      rw [bodyChars.eq_def (i :: is), List.append_assoc] at hbody
      exact absurd hbody (chars_append_ne i _ _)
    | cons j js =>
      -- Behind a comma, a list that is not empty goes on as it begins.
      exact tailChars_append_inj htext hu hv his hjs
        (congrArg (',' :: ·) hbody)

end Reading

/-! ## Lists that share their written form -/

/-- Lists that are written alike from some item on are written alike. -/
theorem quotedText_append_congr {i j : ListItem} {is js : List ListItem}
    {u : List Char} (h : tailChars (i :: is) = tailChars (j :: js) ++ u)
    (ks : List ListItem) :
    (quotedText (ks ++ i :: is)).toList
      = (quotedText (ks ++ j :: js)).toList ++ u := by
  have htail (ks : List ListItem) :
      tailChars (ks ++ i :: is) = tailChars (ks ++ j :: js) ++ u := by
    induction ks with
    | nil => exact h
    | cons k ks ih =>
      show ',' :: (k.chars ++ tailChars (ks ++ i :: is)) = _
      rw [ih, ← List.append_assoc]
      rfl
  have hbody : bodyChars (ks ++ i :: is) = bodyChars (ks ++ j :: js) ++ u := by
    cases ks with
    | nil => exact (List.cons.inj h).2
    | cons k ks =>
      show k.chars ++ tailChars (ks ++ i :: is) = _
      rw [htail, ← List.append_assoc]
      rfl
  rw [toList_quotedText, toList_quotedText, hbody, List.cons_append]

variable {s : String} {next a r : List Char} {ns : List Int}

/-- A text that is cut is written like the text up to the quote and the
integers behind the quote, as far as what cuts it and what follows go on
alike. -/
theorem tailChars_of_cut
    (hs : a ++ '"' :: (runChars ns ++ next) ++ r = s.toList ++ ['"'])
    {is js : List ListItem} {u : List Char}
    (h : next ++ (r ++ tailChars is) = tailChars js ++ u) :
    tailChars (text s :: is)
      = tailChars (text (String.ofList a) :: (ns.map int ++ js)) ++ u := by
  calc tailChars (text s :: is)
      = ',' :: '"' :: (s.toList ++ ['"'] ++ tailChars is) := rfl
    _ = ',' :: '"' :: (a ++ '"' :: (runChars ns
          ++ (next ++ (r ++ tailChars is)))) := by
        rw [← hs]
        simp only [List.append_assoc, List.cons_append]
    _ = ',' :: '"' :: (a ++ ['"'] ++ tailChars (ns.map int ++ js)) ++ u := by
        rw [h, tailChars_run]
        simp only [List.append_assoc, List.cons_append, List.nil_append]
    _ = tailChars (text (String.ofList a) :: (ns.map int ++ js)) ++ u := by
        rw [tailChars, chars, String.toList_ofList]
        rfl

/-- A text that is cut is longer than what it is cut to. -/
theorem ne_of_cut (hnext : next ≠ [])
    (hs : a ++ '"' :: (runChars ns ++ next) ++ r = s.toList ++ ['"']) :
    s ≠ String.ofList a := by
  rintro rfl
  have hlength := congrArg List.length hs
  have hpos := List.length_pos_of_ne_nil hnext
  simp only [String.toList_ofList, List.length_append, List.length_cons,
    List.length_nil] at hlength
  omega

/-- **A text that is cut before the next text** stands in a list that is
written like another one: like the text up to the quote, the integers behind
the quote, and one text for the rest. -/
theorem CutBefore.share {i : ListItem} (hi : i.CutBefore nextText)
    (ks : List ListItem) :
    ∃ is js, i :: is ≠ js
      ∧ quotedText (ks ++ i :: is) = quotedText (ks ++ js) := by
  cases i with
  | int n => exact hi.elim
  | text s =>
    obtain ⟨ns, a, r, hs⟩ := hi
    -- A text behind the cut one gives its first quote to the rest.
    have hrest : nextText ++ (r ++ tailChars [text ""])
        = tailChars [text (String.ofList (r ++ nextText))] ++ [] := by
      simp [tailChars, chars, nextText]
    refine ⟨[text ""], text (String.ofList a) ::
      (ns.map int ++ [text (String.ofList (r ++ nextText))]), ?_, ?_⟩
    · exact fun h => ne_of_cut (by decide) hs (text.inj (List.cons.inj h).1)
    · rw [← String.toList_inj,
        quotedText_append_congr (tailChars_of_cut hs hrest) ks,
        List.append_nil]

/-- **A text that is cut before the end of the list** is written as if the
list ended inside it. -/
theorem CutBefore.ends {i : ListItem} (hi : i.CutBefore listEnd)
    (ks is : List ListItem) :
    ∃ js rest, rest ≠ ""
      ∧ quotedText (ks ++ i :: is) = quotedText (ks ++ js) ++ rest := by
  cases i with
  | int n => exact hi.elim
  | text s =>
    obtain ⟨ns, a, r, hs⟩ := hi
    refine ⟨text (String.ofList a) :: (ns.map int ++ []),
      String.ofList (r ++ tailChars is), ?_, ?_⟩
    · rw [Ne, String.ofList_eq_empty_iff]
      exact List.append_ne_nil_of_right_ne_nil r (tailChars_ne_nil is)
    · rw [← String.toList_inj, String.toList_append, String.toList_ofList]
      exact quotedText_append_congr (tailChars_of_cut hs rfl) ks

end ListItem

namespace Filter

open ListItem

/-- The test for none of a list asks for the list with its texts in
quotes. -/
theorem fieldScript_notInList (column : Value) (f : SeqForm)
    (is : List ListItem) :
    fieldScript column (.doc [(.text "$nin", .seq f (is.map toValue))])
      = Script.send (.not column (.text "in") (.text (quotedText is))) :=
  Trail.append_empty _

/-- **Which lists can be told from their quoted form.**

* Lists of texts and integers with no text that is cut before the next text
  are written differently, unless they are the same.
* Two tests for none of a list ask for the same call just when the lists are
  written alike.
* Behind any items, a text that is cut before the next text goes on to a
  list that is written like another one.
* If no text is cut before the end of the list either, what is written also
  tells where the list ends.
* Between any items, a text that is cut before the end of the list makes the
  list be written as if it ended inside the text. -/
theorem quoted_lists_told_apart (is js : List ListItem) :
    ((∀ i ∈ is ++ js, i.Whole [nextText]) →
        quotedText is = quotedText js → is = js)
      ∧ (∀ (column : Value) (f g : SeqForm),
        fieldScript column (.doc [(.text "$nin", .seq f (is.map toValue))])
            = fieldScript column
              (.doc [(.text "$nin", .seq g (js.map toValue))])
          ↔ quotedText is = quotedText js)
      ∧ (∀ i : ListItem, i.CutBefore nextText → ∃ ks ls, i :: ks ≠ ls
        ∧ quotedText (is ++ i :: ks) = quotedText (is ++ ls))
      ∧ ((∀ i ∈ is ++ js, i.Whole [nextText, listEnd]) →
        ∀ u v, quotedText is ++ u = quotedText js ++ v → is = js ∧ u = v)
      ∧ ∀ i : ListItem, i.CutBefore listEnd → ∃ ks rest, rest ≠ ""
        ∧ quotedText (is ++ i :: js) = quotedText (is ++ ks) ++ rest := by
  refine ⟨fun h htext => ?_, fun column f g => ?_, fun i hi => hi.share is,
    fun h u v htext => ?_, fun i hi => hi.ends is js⟩
  · obtain ⟨his, hjs⟩ := List.forall_mem_append.mp h
    exact (quotedText_append_inj (List.mem_singleton_self _) (Or.inr rfl)
      (Or.inr rfl) his hjs (congrArg (·.toList ++ []) htext)).1
  · rw [fieldScript_notInList, fieldScript_notInList]
    simp [Script.send, Trail.one]
  · obtain ⟨his, hjs⟩ := List.forall_mem_append.mp h
    have hchars := congrArg String.toList htext
    rw [String.toList_append, String.toList_append] at hchars
    obtain ⟨rfl, huv⟩ := quotedText_append_inj (by decide)
      (Or.inl (by decide)) (Or.inl (by decide)) his hjs hchars
    exact ⟨rfl, String.toList_inj.mp huv⟩

/-- Texts with commas, digits and quotes inside them are told from integers
and from each other, and in front of anything; but behind them a text can
hold a quote, a number and what the list may go on with. -/
theorem quoted_lists_told_apart_crowded :
    let is : List ListItem := [.text "1,2", .int (-3), .text "a\"b", .text ""]
    let js : List ListItem := [.text "1", .int 2, .int (-3), .text "a\"b,"]
    let two : ListItem := .text "a\",7,\"b"
    let last : ListItem := .text "a\",7)"
    (∀ i ∈ is ++ js, i.Whole [nextText, listEnd])
      ∧ quotedText is ≠ quotedText js
      ∧ (∀ u v, quotedText is ++ u ≠ quotedText js ++ v)
      ∧ (∃ ks ls, two :: ks ≠ ls
        ∧ quotedText (is ++ two :: ks) = quotedText (is ++ ls))
      ∧ ∃ ks rest, rest ≠ ""
        ∧ quotedText (is ++ last :: js) = quotedText (is ++ ks) ++ rest := by
  intro is js two last
  have hplain : ∀ i ∈ is ++ js, i.Plain := by decide
  have hne : is ≠ js := by decide
  obtain ⟨happart, -, hshare, hfront, hends⟩ := quoted_lists_told_apart is js
  have hwhole : ∀ i ∈ is ++ js, i.Whole [nextText, listEnd] :=
    fun i hi => (hplain i hi).whole (List.Subset.refl _)
  have hnext : ∀ i ∈ is ++ js, i.Whole [nextText] :=
    fun i hi => (hplain i hi).whole (by simp)
  exact ⟨hwhole, mt (happart hnext) hne,
    fun u v htext => hne (hfront hwhole u v htext).1,
    hshare _ ⟨[7], by decide⟩, hends _ ⟨[7], by decide⟩⟩

/-- A text with the quotes and the comma of two others inside it. -/
theorem quoted_lists_shared :
    Value.listText true [.text "a\",\"b"] = "(\"a\",\"b\")"
      ∧ Value.listText true [.text "a", .text "b"] = "(\"a\",\"b\")"
      ∧ [Value.text "a\",\"b"] ≠ [.text "a", .text "b"] := by
  decide

end Filter

end DocFilter
