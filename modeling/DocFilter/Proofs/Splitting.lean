import DocFilter.Proofs.Columns
import DocFilter.Proofs.NumberText

/-!
# The text of an `$or` can be read back

What a builder gets of an `$or` is one text, and reading it back takes two
cuts: at the commas outside of parentheses it falls into fragments
(`Disjunction.split`), and at its first two dots a fragment falls into its
column, its name and its operand (`Fragment.ofText?`). Nothing in the text
is quoted, so this can only work as long as the texts of the filter keep
clear of the separators. Clauses are **bare** (`Disjunction.areBare`) if no
column has a comma, a parenthesis or a dot in its name and no operand has a
comma or a parenthesis; an operand may have dots, and the list of a
membership test has commas of its own.

The reader is followed by its depth (`Disjunction.scan`). Characters that
close every parenthesis they open and have no comma outside of them are a
**part** (`Disjunction.IsPart`), and a join of parts is split into just
these parts (`Disjunction.split_intercalate`). A bare operand is a part
because it has no separator at all – a number never has one – and a list of
bare items is one because its commas stand at depth one. With a column and a
name in front, which have no separator either, every fragment of bare
clauses is a part, and `Disjunction.text_unambiguous` follows from the flat
form of the text, `Disjunction.text_eq_intercalate`.

An element that is no document, and a test without a written form, leave
nothing in the text and are free to hold any character.
-/

namespace DocFilter

namespace Disjunction

/-! ## Splitting -/

/-- How deep in parentheses one is after a character. -/
def depthAfter (depth : Nat) (c : Char) : Nat :=
  if c = '(' then depth + 1
  else if c = ')' then depth - 1
  else depth

/-- Splits characters at the commas outside of parentheses, from a depth on
and with the characters of the first part that were met before. -/
def splitFrom (depth : Nat) (part : List Char) :
    List Char → List (List Char)
  | [] => [part]
  | c :: cs =>
    if c = ',' ∧ depth = 0 then part :: splitFrom 0 [] cs
    else splitFrom (depthAfter depth c) (part ++ [c]) cs

/-- **A text split at the commas outside of parentheses.** The empty text
has no parts. -/
def split (s : String) : List String :=
  if s = "" then [] else (splitFrom 0 [] s.toList).map String.ofList

/-- Characters before and after the first dot. -/
def cutAtDot : List Char → Option (List Char × List Char)
  | [] => none
  | c :: cs =>
    if c = '.' then some ([], cs)
    else (cutAtDot cs).map fun (a, b) => (c :: a, b)

end Disjunction

/-- **A text cut at its first two dots**, read as a fragment. -/
def Fragment.ofText? (s : String) : Option Fragment :=
  (Disjunction.cutAtDot s.toList).bind fun (column, rest) =>
    (Disjunction.cutAtDot rest).map fun (name, operand) =>
      ⟨.text (String.ofList column), String.ofList name,
        String.ofList operand⟩

namespace Disjunction

/-! ## Characters that end no part -/

/-- **The depth after some characters**, unless one of them is a comma
outside of parentheses. -/
def scan (depth : Nat) : List Char → Option Nat
  | [] => some depth
  | c :: cs =>
    if c = ',' ∧ depth = 0 then none else scan (depthAfter depth c) cs

/-- The depth after characters and more characters. -/
theorem scan_append (depth : Nat) (cs ds : List Char) :
    scan depth (cs ++ ds) = (scan depth cs).bind fun d => scan d ds := by
  induction cs generalizing depth with
  | nil => rfl
  | cons c cs ih =>
    rw [List.cons_append, scan, scan]
    split
    · rfl
    · exact ih _

/-- Characters that end no part belong to the part they stand in. -/
theorem splitFrom_append {depth depth' : Nat} {cs : List Char}
    (h : scan depth cs = some depth') (part ds : List Char) :
    splitFrom depth part (cs ++ ds)
      = splitFrom depth' (part ++ cs) ds := by
  induction cs generalizing depth part with
  | nil =>
    obtain rfl := Option.some.inj h
    rw [List.nil_append, List.append_nil]
  | cons c cs ih =>
    rw [scan] at h
    split at h
    · exact nomatch h
    · next hc =>
      rw [List.cons_append, splitFrom, if_neg hc, ih h, List.append_assoc]
      rfl

/-- **A part by itself**: no comma outside of parentheses, and every
parenthesis closed. -/
def IsPart (cs : List Char) : Prop := scan 0 cs = some 0

/-- **Splitting undoes joining**, for parts that can be told apart. -/
theorem splitFrom_intercalate {parts : List (List Char)}
    (hne : parts ≠ []) (h : ∀ cs ∈ parts, IsPart cs) :
    splitFrom 0 [] ([','].intercalate parts) = parts := by
  induction parts with
  | nil => exact absurd rfl hne
  | cons cs parts ih =>
    have hcs := h cs (List.mem_cons_self ..)
    cases parts with
    | nil =>
      have hend := splitFrom_append hcs [] []
      rw [List.append_nil] at hend
      rw [List.intercalate_singleton, hend]
      rfl
    | cons ds parts =>
      have htail := ih (List.cons_ne_nil ds parts)
        fun es hes => h es (List.mem_cons_of_mem cs hes)
      rw [List.intercalate_cons_cons, List.append_assoc,
        splitFrom_append hcs]
      show cs :: splitFrom 0 [] ([','].intercalate (ds :: parts)) = _
      rw [htail]

/-- **A join of texts that are parts** is split into these texts. -/
theorem split_intercalate {xs : List String}
    (h : ∀ x ∈ xs, x ≠ "" ∧ IsPart x.toList) :
    split (",".intercalate xs) = xs := by
  cases xs with
  | nil => rfl
  | cons x xs =>
    have hne : ",".intercalate (x :: xs) ≠ "" :=
      intercalate_ne_empty (List.cons_ne_nil x xs) fun y hy => (h y hy).1
    have hparts : ∀ cs ∈ (x :: xs).map String.toList, IsPart cs := by
      intro cs hcs
      obtain ⟨y, hy, rfl⟩ := List.mem_map.mp hcs
      exact (h y hy).2
    have hsplit : splitFrom 0 [] (",".toList.intercalate
        ((x :: xs).map String.toList)) = (x :: xs).map String.toList :=
      splitFrom_intercalate (List.cons_ne_nil _ _) hparts
    rw [split, if_neg hne, String.toList_intercalate, hsplit, List.map_map]
    exact (List.map_congr_left fun y _ => String.ofList_toList).trans
      (List.map_id _)

/-- The characters before the first dot, and those after it. -/
theorem cutAtDot_append {cs : List Char} (h : '.' ∉ cs) (ds : List Char) :
    cutAtDot (cs ++ '.' :: ds) = some (cs, ds) := by
  induction cs with
  | nil => rfl
  | cons c cs ih =>
    have hc : c ≠ '.' := fun hc => h (hc ▸ List.mem_cons_self ..)
    rw [List.cons_append, cutAtDot, if_neg hc,
      ih fun hmem => h (List.mem_cons_of_mem c hmem)]
    rfl

end Disjunction

/-! ## Bare texts -/

/-- The characters that set fragments and items apart. -/
def isSeparator (c : Char) : Bool := c == ',' || c == '(' || c == ')'

theorem isSeparator_eq_false_iff {c : Char} :
    isSeparator c = false ↔ c ≠ ',' ∧ c ≠ '(' ∧ c ≠ ')' := by
  simp [isSeparator, and_assoc]

/-- Whether a text holds no separator. -/
def isBareText (s : String) : Bool := s.toList.all fun c => !isSeparator c

/-- Whether a key is a text without a separator and without a dot. -/
def Key.isBareName : Key → Bool
  | .text s => isBareText s && !s.toList.contains '.'
  | _ => false

/-- Whether a value is nothing, a truth value, a number, or a text without
a separator. -/
def Value.isBare : Value → Bool
  | .null | .bool _ | .int _ | .float _ => true
  | .text s => isBareText s
  | _ => false

/-- Whether the operand of a test is bare, or a list of bare items, where
the test is written in an `$or`. -/
def testIsBare (tag : Key) (operand : Value) : Bool :=
  match tag.operator? with
  | some .eq | some .ne | some .gt | some .gte | some .lt | some .lte =>
    operand.isBare
  | some .inList =>
    match operand with
    | .seq _ vs => vs.all Value.isBare
    | _ => true
  | _ => true

/-- Whether a field of an `$or` has bare operands. -/
def Value.hasBareOperands (v : Value) : Bool :=
  match v.condition with
  | .plain v => v.isBare
  | .operators ts => ts.all fun (tag, operand) => testIsBare tag operand

/-- **Whether the clauses of an `$or` are bare**: all their fields have bare
names and bare operands. What an element that is no document holds does not
matter. -/
def Disjunction.areBare (cs : List Value) : Bool :=
  cs.all fun
    | .doc ms => ms.all fun (k, v) => k.isBareName && v.hasBareOperands
    | _ => true

namespace Disjunction

/-- Only parentheses change the depth. -/
theorem depthAfter_of_ne {c : Char} (hopen : c ≠ '(') (hclose : c ≠ ')')
    (depth : Nat) : depthAfter depth c = depth := by
  rw [depthAfter, if_neg hopen, if_neg hclose]

/-- Characters without separators leave the depth as it is. -/
theorem scan_of_bare {cs : List Char}
    (h : ∀ c ∈ cs, isSeparator c = false) (depth : Nat) :
    scan depth cs = some depth := by
  induction cs with
  | nil => rfl
  | cons c cs ih =>
    obtain ⟨hcomma, hopen, hclose⟩ :=
      isSeparator_eq_false_iff.mp (h c (List.mem_cons_self ..))
    rw [scan, if_neg fun hc => hcomma hc.1,
      depthAfter_of_ne hopen hclose]
    exact ih fun d hd => h d (List.mem_cons_of_mem c hd)

/-- Inside parentheses commas leave the depth as it is, too. -/
theorem scan_inside {cs : List Char}
    (h : ∀ c ∈ cs, c = ',' ∨ isSeparator c = false) (depth : Nat) :
    scan (depth + 1) cs = some (depth + 1) := by
  induction cs with
  | nil => rfl
  | cons c cs ih =>
    have hdepth : depthAfter (depth + 1) c = depth + 1 := by
      obtain rfl | hc := h c (List.mem_cons_self ..)
      · rfl
      · obtain ⟨-, hopen, hclose⟩ := isSeparator_eq_false_iff.mp hc
        exact depthAfter_of_ne hopen hclose (depth + 1)
    rw [scan, if_neg fun hc => Nat.succ_ne_zero depth hc.2, hdepth]
    exact ih fun d hd => h d (List.mem_cons_of_mem c hd)

end Disjunction

/-! ## The texts of bare values -/

/-- The characters of a bare text. -/
theorem isSeparator_of_isBareText {s : String} (h : isBareText s = true) :
    ∀ c ∈ s.toList, isSeparator c = false := by
  intro c hc
  simpa using List.all_eq_true.mp h c hc

/-- The characters of a bare name. -/
theorem Key.chars_of_isBareName {s : String}
    (h : (Key.text s).isBareName = true) :
    '.' ∉ s.toList ∧ ∀ c ∈ s.toList, isSeparator c = false := by
  obtain ⟨hbare, hdot⟩ := Bool.and_eq_true_iff.mp h
  exact ⟨by simpa using hdot, isSeparator_of_isBareText hbare⟩

/-- No character of a number is a separator. -/
theorem isSeparator_of_isNumeral {c : Char} (h : isNumeral c = true) :
    isSeparator c = false := by
  rw [isSeparator_eq_false_iff]
  refine ⟨?_, ?_, ?_⟩ <;>
    · rintro rfl
      exact absurd h (by decide)

/-- A floating-point number is written in the characters of numbers, whole
or not. -/
theorem isNumeral_filterText_float (x : Binary64) :
    Numeral (Atom.filterText (.float x)).toList := by
  unfold Atom.filterText
  dsimp only
  cases x.integer? with
  | some n => exact isNumeral_toString n
  | none => exact x.isNumeral_text

/-- **The filter text of a bare value** holds no separator. -/
theorem Value.isSeparator_filterText {v : Value} (h : v.isBare = true) :
    ∀ c ∈ v.filterText.toList, isSeparator c = false := by
  cases v with
  | seq f vs => exact nomatch h
  | doc ms => exact nomatch h
  | atom a =>
    cases a with
    | null => exact isSeparator_of_isBareText (s := "null") rfl
    | bool b =>
      cases b with
      | false => exact isSeparator_of_isBareText (s := "false") rfl
      | true => exact isSeparator_of_isBareText (s := "true") rfl
    | int n =>
      exact fun c hc => isSeparator_of_isNumeral (isNumeral_toString n c hc)
    | float x =>
      exact fun c hc =>
        isSeparator_of_isNumeral (isNumeral_filterText_float x c hc)
    | text s => exact isSeparator_of_isBareText h
    | bytes bs => exact nomatch h
    | pattern p => exact nomatch h

/-- A character of a join is the comma or stands in one of its parts. -/
theorem mem_intercalate_comma {parts : List (List Char)} {c : Char}
    (h : c ∈ [','].intercalate parts) :
    c = ',' ∨ ∃ cs ∈ parts, c ∈ cs := by
  induction parts with
  | nil => exact absurd h List.not_mem_nil
  | cons cs parts ih =>
    cases parts with
    | nil =>
      rw [List.intercalate_singleton] at h
      exact Or.inr ⟨cs, List.mem_cons_self .., h⟩
    | cons ds parts =>
      rw [List.intercalate_cons_cons, List.mem_append,
        List.mem_append] at h
      obtain (h | h) | h := h
      · exact Or.inr ⟨cs, List.mem_cons_self .., h⟩
      · exact Or.inl (List.mem_singleton.mp h)
      · obtain h | ⟨es, hes, hc⟩ := ih h
        · exact Or.inl h
        · exact Or.inr ⟨es, List.mem_cons_of_mem cs hes, hc⟩

namespace Disjunction

/-- **A written list of bare items** is a part by itself: its commas stand
between parentheses. -/
theorem isPart_listText {vs : List Value}
    (h : ∀ v ∈ vs, v.isBare = true) :
    IsPart (Value.listText false vs).toList := by
  have hbody : ∀ c ∈ (",".intercalate
      (vs.map (Value.itemText false))).toList,
      c = ',' ∨ isSeparator c = false := by
    intro c hc
    rw [String.toList_intercalate] at hc
    obtain hcomma | ⟨cs, hcs, hc⟩ := mem_intercalate_comma hc
    · exact Or.inl hcomma
    · obtain ⟨s, hs, rfl⟩ := List.mem_map.mp hcs
      obtain ⟨v, hv, rfl⟩ := List.mem_map.mp hs
      rw [Value.itemText_false] at hc
      exact Or.inr (Value.isSeparator_filterText (h v hv) c hc)
  rw [IsPart, Value.listText, String.toList_append, String.toList_append]
  generalize (",".intercalate
    (vs.map (Value.itemText false))).toList = body at hbody ⊢
  show scan 1 (body ++ [')']) = some 0
  rw [scan_append, scan_inside hbody 0]
  rfl

end Disjunction

/-! ## Fragments of bare clauses -/

/-- The names that tests are written by. -/
def Fragment.names : List String :=
  ["eq", "neq", "gt", "gte", "lt", "lte", "in", "is"]

/-- **A fragment that can be read back.** -/
structure Fragment.IsBare (f : Fragment) : Prop where
  column : ∃ s, f.column = .text s ∧ (Key.text s).isBareName = true
  name : f.name ∈ names
  operand : Disjunction.IsPart f.operand.toList

namespace Fragment.IsBare

variable {f : Fragment}

/-- The names are bare themselves. -/
theorem isBareName_name (h : f.IsBare) :
    (Key.text f.name).isBareName = true := by
  have hall : names.all fun name => (Key.text name).isBareName := rfl
  exact List.all_eq_true.mp hall f.name h.name

/-- The characters of a fragment. -/
theorem toList_text {s : String} (hs : f.column = .text s) :
    f.text.toList
      = s.toList ++ '.' :: (f.name.toList ++ '.' :: f.operand.toList) := by
  rw [text, hs]
  simp [Value.display]

/-- **A bare fragment is a part by itself.** -/
theorem isPart_text (h : f.IsBare) : Disjunction.IsPart f.text.toList := by
  obtain ⟨s, hs, hcolumn⟩ := h.column
  have hfront : ∀ c ∈ s.toList ++ '.' :: (f.name.toList ++ ['.']),
      isSeparator c = false := by
    simp only [List.forall_mem_append, List.forall_mem_cons]
    exact ⟨(Key.chars_of_isBareName hcolumn).2, rfl,
      (Key.chars_of_isBareName h.isBareName_name).2, rfl, nofun⟩
  have htext : f.text.toList
      = (s.toList ++ '.' :: (f.name.toList ++ ['.']))
        ++ f.operand.toList := by
    rw [toList_text hs]
    simp
  rw [Disjunction.IsPart, htext, Disjunction.scan_append,
    Disjunction.scan_of_bare hfront]
  exact h.operand

/-- **A bare fragment is read back** from its text. -/
theorem ofText?_text (h : f.IsBare) : ofText? f.text = some f := by
  obtain ⟨s, hs, hcolumn⟩ := h.column
  rw [ofText?, toList_text hs,
    Disjunction.cutAtDot_append (Key.chars_of_isBareName hcolumn).1,
    Option.bind_some]
  dsimp only
  rw [Disjunction.cutAtDot_append
      (Key.chars_of_isBareName h.isBareName_name).1, Option.map_some]
  simp only [String.ofList_toList, ← hs]

end Fragment.IsBare

namespace Disjunction

/-- The column of a bare name. -/
theorem exists_text_of_isBareName {k : Key} (h : k.isBareName = true) :
    ∃ s, k.toValue = .text s ∧ (Key.text s).isBareName = true := by
  unfold Key.isBareName at h
  split at h
  · next s => exact ⟨s, rfl, h⟩
  · exact nomatch h

/-- The filter text of a bare value is a part by itself. -/
theorem isPart_filterText {v : Value} (h : v.isBare = true) :
    IsPart v.filterText.toList :=
  scan_of_bare (Value.isSeparator_filterText h) 0

/-- The fragment of a bare plain value. -/
theorem isBare_plain {k : Key} {v : Value} (hk : k.isBareName = true)
    (hv : v.isBare = true) : (plain k.toValue v).IsBare := by
  have hcolumn := exists_text_of_isBareName hk
  unfold plain
  split
  · exact ⟨hcolumn, (by decide : "is" ∈ Fragment.names),
      (rfl : scan 0 "null".toList = some 0)⟩
  · exact ⟨hcolumn, (by decide : "eq" ∈ Fragment.names),
      isPart_filterText hv⟩

/-- The fragment of a test with a bare operand. -/
theorem isBare_write {k tag : Key} {operand : Value} {f : Fragment}
    (hk : k.isBareName = true) (ht : testIsBare tag operand = true)
    (h : write k.toValue tag operand = .ok f) : f.IsBare := by
  have hcolumn := exists_text_of_isBareName hk
  unfold write at h
  unfold testIsBare at ht
  cases ho : tag.operator? with
  | none =>
    rw [ho] at h
    exact nomatch h
  | some op =>
    rw [ho] at h ht
    cases op with
    | eq | ne | gt | gte | lt | lte =>
      obtain rfl := Except.ok.inj h
      exact ⟨hcolumn, by simp [Fragment.names], isPart_filterText ht⟩
    | inList =>
      cases operand with
      | seq form vs =>
        obtain rfl := Except.ok.inj h
        exact ⟨hcolumn, (by decide : "in" ∈ Fragment.names),
          isPart_listText (List.all_eq_true.mp ht)⟩
      | atom a => exact nomatch h
      | doc ms => exact nomatch h
    | _ => exact nomatch h

/-- The fragments of a field with a bare name and bare operands. -/
theorem isBare_of_mem_fieldOutcomes {k : Key} {v : Value} {f : Fragment}
    (hk : k.isBareName = true) (hv : v.hasBareOperands = true)
    (hf : .ok f ∈ fieldOutcomes k.toValue v) : f.IsBare := by
  unfold fieldOutcomes at hf
  unfold Value.hasBareOperands at hv
  cases hc : v.condition with
  | plain u =>
    rw [hc] at hf hv
    obtain rfl := Except.ok.inj (List.mem_singleton.mp hf)
    exact isBare_plain hk hv
  | operators ts =>
    rw [hc] at hf hv
    obtain ⟨t, ht, hwrite⟩ := List.mem_map.mp hf
    exact isBare_write hk (List.all_eq_true.mp hv t ht) hwrite

/-- **The fragments of bare clauses are bare.** -/
theorem isBare_of_mem_fragments {cs : List Value} (h : areBare cs = true)
    {f : Fragment} (hf : f ∈ fragments cs) : f.IsBare := by
  obtain ⟨c, hc, hfc⟩ := List.mem_flatMap.mp (mem_fragmentsOf.mp hf)
  cases c with
  | doc ms =>
    obtain ⟨m, hm, hfm⟩ := List.mem_flatMap.mp hfc
    have hms := List.all_eq_true.mp (List.all_eq_true.mp h _ hc) m hm
    obtain ⟨hk, hv⟩ := Bool.and_eq_true_iff.mp hms
    exact isBare_of_mem_fieldOutcomes hk hv hfm
  | atom a => exact nomatch List.mem_singleton.mp hfc
  | seq form vs => exact nomatch List.mem_singleton.mp hfc

/-- **The text of bare clauses is split into their fragments.** -/
theorem split_text {cs : List Value} (h : areBare cs = true) :
    split (text cs) = (fragments cs).map Fragment.text := by
  rw [text_eq_intercalate]
  refine split_intercalate fun x hx => ?_
  obtain ⟨f, hf, rfl⟩ := List.mem_map.mp hx
  exact ⟨f.text_ne_empty, (isBare_of_mem_fragments h hf).isPart_text⟩

/-- The fragments of bare clauses are read back from its parts. -/
theorem map_ofText?_split_text {cs : List Value} (h : areBare cs = true) :
    (split (text cs)).map Fragment.ofText? = (fragments cs).map some := by
  rw [split_text h, List.map_map]
  exact List.map_congr_left fun f hf =>
    (isBare_of_mem_fragments h hf).ofText?_text

/-- **The text of an `$or` is unambiguous**, as long as its clauses are
bare. Split at the commas outside of parentheses it gives its fragments, in
order; cut at its first two dots a fragment gives its column, its name –
one of eight – and its operand; and no other bare clauses have the same
text, unless they have the same fragments. -/
theorem text_unambiguous {cs : List Value} (h : areBare cs = true) :
    split (text cs) = (fragments cs).map Fragment.text
      ∧ (∀ f ∈ fragments cs, Fragment.ofText? f.text = some f
          ∧ f.name ∈ Fragment.names)
      ∧ ∀ ds, areBare ds = true → text ds = text cs →
          fragments ds = fragments cs := by
  refine ⟨split_text h, fun f hf => ?_, fun ds hds htext => ?_⟩
  · have hbare := isBare_of_mem_fragments h hf
    exact ⟨hbare.ofText?_text, hbare.name⟩
  · have hsome : (fragments ds).map some = (fragments cs).map some := by
      rw [← map_ofText?_split_text hds, htext, map_ofText?_split_text h]
    exact (List.map_inj_right fun _ _ => Option.some.inj).mp hsome

/-- A list with commas, a number with a point, nothing as a plain value,
and a test and an element that are left out. The same tests in three clauses
have the same text, and so the same fragments. -/
theorem text_unambiguous_mixed :
    let x : Binary64 := ⟨false, 1024, 0x4000000000000⟩
    let items := Value.list [.int 1, .float x, .text "x.y"]
    let ne : Value := .doc [(.text "$ne", .bool true)]
    let cs : List Value :=
      [.doc [(.text "a",
          .doc [(.text "$in", items), (.text "$regex", .text "(,")])],
        .text "stray (,",
        .doc [(.text "b", .null), (.text "c", ne)]]
    let ds : List Value :=
      [.doc [(.text "a", .doc [(.text "$in", items)])],
        .doc [(.text "b", .null)],
        .doc [(.text "c", ne)]]
    areBare cs = true
      ∧ split (text cs) = ["a.in.(1,2.5,x.y)", "b.is.null", "c.neq.true"]
      ∧ (∀ f ∈ fragments cs, Fragment.ofText? f.text = some f
          ∧ f.name ∈ Fragment.names)
      ∧ fragments ds = fragments cs := by
  intro x items ne cs ds
  have hcs : areBare cs = true := by decide
  have hds : areBare ds = true := by decide
  have htext : text ds = text cs := by decide +kernel
  have hsplit : (fragments cs).map Fragment.text
      = ["a.in.(1,2.5,x.y)", "b.is.null", "c.neq.true"] := by
    decide +kernel
  obtain ⟨hparts, hread, hsame⟩ := text_unambiguous hcs
  exact ⟨hcs, hparts.trans hsplit, hread, hsame ds hds htext⟩

/-- A text with a comma is not bare, and can pass for two fragments. -/
example :
    let cs : List Value := [.doc [(.text "a", .text "x,b.eq.y")]]
    let ds : List Value :=
      [.doc [(.text "a", .text "x"), (.text "b", .text "y")]]
    text cs = text ds ∧ fragments cs ≠ fragments ds := by
  decide

end Disjunction

end DocFilter
