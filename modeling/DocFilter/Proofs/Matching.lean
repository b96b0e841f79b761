import DocFilter.Filter.Field
import DocFilter.Proofs.Escapes

/-!
# What a pattern lets through

A regular expression is searched for in a text, and a `LIKE` pattern is held
against the whole of it. Both are read here for the **simple** sources,
which are made of literal characters and wildcards between their anchors,
and the one reading is compared with the other.

A token and what it is rewritten to mean the same – a literal character
itself, a dot any one character, `.*` any text – and a pattern for one text
after another matches what the one matches, followed by what the other
matches (`LikePattern.matches_append_iff`). So the pattern of the tokens
matches what the tokens match (`LikePattern.matches_image_iff`), and with
any text before and after it what a search finds them in.

An anchor leaves no trace in the pattern. It only keeps the search from
finding more, so the pattern lets through all that the search finds, and
just that if there is no anchor.
-/

namespace DocFilter

namespace LikePattern

/-! ## Patterns -/

/-- **Which texts match a pattern**: `%` matches any text, `_` any one
character, and any other character itself. -/
inductive Matches : List Char → List Char → Prop where
  | nil : Matches [] []
  | anyText {p s : List Char} (u : List Char) (h : Matches p s) :
    Matches ('%' :: p) (u ++ s)
  | anyChar {p s : List Char} (c : Char) (h : Matches p s) :
    Matches ('_' :: p) (c :: s)
  | same {p s : List Char} {c : Char} (htext : c ≠ '%') (hchar : c ≠ '_')
    (h : Matches p s) : Matches (c :: p) (c :: s)

/-- Any text matches `%`. -/
theorem matches_anyText (s : List Char) : Matches ['%'] s := by
  have h := Matches.anyText s .nil
  rwa [List.append_nil] at h

/-- **A pattern after another** matches a text that falls into two, one for
each. -/
theorem matches_append_iff {p q s : List Char} :
    Matches (p ++ q) s
      ↔ ∃ u v, s = u ++ v ∧ Matches p u ∧ Matches q v := by
  constructor
  · intro h
    induction p generalizing s with
    | nil => exact ⟨[], s, rfl, .nil, h⟩
    | cons c p ih =>
      cases h with
      | anyText w h =>
        obtain ⟨u, v, rfl, hu, hv⟩ := ih h
        exact ⟨w ++ u, v, (List.append_assoc w u v).symm, .anyText w hu, hv⟩
      | anyChar d h =>
        obtain ⟨u, v, rfl, hu, hv⟩ := ih h
        exact ⟨d :: u, v, rfl, .anyChar d hu, hv⟩
      | same htext hchar h =>
        obtain ⟨u, v, rfl, hu, hv⟩ := ih h
        exact ⟨c :: u, v, rfl, .same htext hchar hu, hv⟩
  · rintro ⟨u, v, rfl, hu, hv⟩
    induction hu with
    | nil => exact hv
    | anyText w _ ih =>
      rw [List.append_assoc]
      exact .anyText w ih
    | anyChar d _ ih => exact .anyChar d ih
    | same htext hchar _ ih => exact .same htext hchar ih

/-- **A pattern anywhere in a text.** -/
theorem matches_anywhere_iff {pattern s : String} :
    Matches (anywhere pattern).toList s.toList
      ↔ ∃ before found after, s.toList = before ++ found ++ after
        ∧ Matches pattern.toList found := by
  have hchars : (anywhere pattern).toList
      = ['%'] ++ pattern.toList ++ ['%'] := by
    rw [anywhere, String.toList_append, String.toList_append]
    rfl
  rw [hchars, matches_append_iff]
  constructor
  · rintro ⟨u, after, hs, hu, -⟩
    obtain ⟨before, found, rfl, -, hfound⟩ := matches_append_iff.mp hu
    exact ⟨before, found, after, hs, hfound⟩
  · rintro ⟨before, found, after, hs, hfound⟩
    refine ⟨before ++ found, after, hs, ?_, matches_anyText after⟩
    exact matches_append_iff.mpr
      ⟨before, found, rfl, matches_anyText before, hfound⟩

/-! ## Simple sources -/

/-- The further characters that mean something in a source or a pattern. -/
def isOperator (c : Char) : Bool :=
  ['%', '_', '[', ']', '(', ')', '|', '+', '?', '\x7b', '\x7d'].contains c

/-- Whether a token is a wildcard or a literal character. -/
def Token.isSimple : Token → Bool
  | plain c _ => !isOperator c
  | anyChar | anyText => true
  | escape _ => false

/-- **Which texts tokens match**, one by one. An escape is not read. -/
inductive Reads : List Token → List Char → Prop where
  | nil : Reads [] []
  | plain {ts : List Token} {s : List Char} (c : Char)
    (hc : isSpecial c = false) (h : Reads ts s) :
    Reads (.plain c hc :: ts) (c :: s)
  | anyChar {ts : List Token} {s : List Char} (c : Char) (h : Reads ts s) :
    Reads (.anyChar :: ts) (c :: s)
  | anyText {ts : List Token} {s : List Char} (u : List Char)
    (h : Reads ts s) : Reads (.anyText :: ts) (u ++ s)

namespace Source

/-- Whether a source has only simple tokens. -/
def IsSimple (r : Source) : Prop := ∀ t ∈ r.tokens, t.isSimple = true

instance : DecidablePred IsSimple :=
  fun r => inferInstanceAs (Decidable (∀ t ∈ r.tokens, _))

/-- **Whether a search finds a source in a text**: a part of the text
matches its tokens, at the start where there is an anchor for that, and at
the end where there is one. -/
def FoundIn (r : Source) (s : List Char) : Prop :=
  ∃ before found after, s = before ++ found ++ after
    ∧ Reads r.tokens found
    ∧ (r.start = true → before = []) ∧ (r.finish = true → after = [])

/-- A simple source has the pattern it should have. -/
theorem IsSimple.ofSource_chars {r : Source} (h : r.IsSimple) :
    ofSource r.chars = r.image := by
  have hescape (c : Char) : .escape c ∉ r.tokens := fun hc => nomatch h _ hc
  refine (ofSource_chars_eq_image_iff r).mpr ⟨hescape '.', fun _ hlast => ?_⟩
  exact hescape '$' (List.mem_of_getLast? hlast)

end Source

/-- **What simple tokens should become matches what they match.** -/
theorem matches_image_iff {ts : List Token} {s : List Char}
    (hts : ∀ t ∈ ts, t.isSimple = true) :
    Matches (ts.flatMap Token.image) s ↔ Reads ts s := by
  induction ts generalizing s with
  | nil =>
    constructor
    · rintro ⟨⟩
      exact .nil
    · rintro ⟨⟩
      exact .nil
  | cons t ts ih =>
    obtain ⟨ht, hrest⟩ := List.forall_mem_cons.mp hts
    have ih {u : List Char} :
        Matches (ts.flatMap Token.image) u ↔ Reads ts u := ih hrest
    rw [List.flatMap_cons]
    cases t with
    | plain c hc =>
      -- A literal character is neither of the two that match others.
      have hne (d : Char) (hd : isOperator d = true) : c ≠ d := by
        rintro rfl
        rw [Token.isSimple, hd] at ht
        exact absurd ht Bool.false_ne_true
      constructor
      · rintro (_ | _ | _ | ⟨-, -, h⟩)
        · exact absurd rfl (hne '%' rfl)
        · exact absurd rfl (hne '_' rfl)
        · exact .plain c hc (ih.mp h)
      · rintro (_ | ⟨_, _, h⟩)
        exact .same (hne '%' rfl) (hne '_' rfl) (ih.mpr h)
    | anyChar =>
      constructor
      · rintro (_ | _ | ⟨d, h⟩ | ⟨-, hchar, -⟩)
        · exact .anyChar d (ih.mp h)
        · exact absurd rfl hchar
      · rintro (_ | _ | ⟨d, h⟩)
        exact .anyChar d (ih.mpr h)
    | anyText =>
      constructor
      · rintro (_ | ⟨u, h⟩ | _ | ⟨htext, -, -⟩)
        · exact .anyText u (ih.mp h)
        · exact absurd rfl htext
      · rintro (_ | _ | _ | ⟨u, h⟩)
        exact .anyText u (ih.mpr h)
    | escape c => exact absurd ht Bool.false_ne_true

/-! ## Searches -/

/-- **The pattern of a simple source**, anywhere in a text, matches where
some part of the text matches the tokens. -/
theorem matches_anywhere_ofSource_iff {r : Source} (hr : r.IsSimple)
    (s : String) :
    Matches (anywhere (String.ofList (ofSource r.chars))).toList s.toList
      ↔ ∃ before found after, s.toList = before ++ found ++ after
        ∧ Reads r.tokens found := by
  rw [matches_anywhere_iff, String.toList_ofList, hr.ofSource_chars,
    Source.image]
  simp only [matches_image_iff hr]

end LikePattern

namespace Filter

open LikePattern

/-- The test for a source asks for its pattern anywhere in the text. -/
theorem fieldScript_regex {operand : Value} {pattern : String}
    (h : operand.likePattern = .ok pattern) (column : Value) :
    fieldScript column (.doc [(.text "$regex", operand)])
      = Script.send (.ilike column (.text (anywhere pattern))) := by
  have htest : fieldScript column (.doc [(.text "$regex", operand)])
      = testScript column (.text Operator.regex.tag) operand :=
    Trail.append_empty _
  rw [htest]
  unfold testScript
  rw [Key.operator?_text, Operator.ofTag?_tag]
  dsimp only
  rw [h]

/-- **A pattern lets through what a search finds.** The test of a field for
a simple source asks for its pattern anywhere in the text, and asks for
nothing else. Whatever text the source is found in matches that pattern; and
without an anchor, no other text does. -/
theorem found_matches {r : Source} (hr : r.IsSimple) {operand : Value}
    (h : operand.regexSource = .ok r.text) (column : Value) :
    ∃ pattern : String,
      fieldScript column (.doc [(.text "$regex", operand)])
          = Script.send (.ilike column (.text pattern))
        ∧ operand.likePattern.map anywhere = .ok pattern
        ∧ (∀ s : String, r.FoundIn s.toList
          → Matches pattern.toList s.toList)
        ∧ (r.start = false → r.finish = false → ∀ s : String,
          r.FoundIn s.toList ↔ Matches pattern.toList s.toList) := by
  have hpattern := likePattern_eq r h
  refine ⟨anywhere (String.ofList (ofSource r.chars)),
    fieldScript_regex hpattern column, ?_,
    fun s hs => ?_, fun hstart hfinish s => ?_⟩
  · rw [hpattern]
    rfl
  · obtain ⟨before, found, after, hparts, hfound, -⟩ := hs
    exact (matches_anywhere_ofSource_iff hr s).mpr
      ⟨before, found, after, hparts, hfound⟩
  · rw [matches_anywhere_ofSource_iff hr]
    constructor
    · rintro ⟨before, found, after, hparts, hfound, -⟩
      exact ⟨before, found, after, hparts, hfound⟩
    · rintro ⟨before, found, after, hparts, hfound⟩
      refine ⟨before, found, after, hparts, hfound, ?_, ?_⟩
      · intro hanchor
        exact nomatch hstart.symm.trans hanchor
      · intro hanchor
        exact nomatch hfinish.symm.trans hanchor

/-- A source with one wildcard right after another, compiled: `..*` becomes
`_%`, and the pattern lets through just what the search finds. -/
theorem found_matches_adjacent :
    let r : Source :=
      ⟨false, [.plain 'a' rfl, .anyChar, .anyText, .plain '-' rfl], false⟩
    let operand : Value :=
      .pattern (.text r.text ⟨true, false, false, false, false⟩)
    r.text = "a..*-" ∧ r.IsSimple ∧ operand.regexSource = .ok r.text
      ∧ fieldScript (.text "name") (.doc [(.text "$regex", operand)])
        = Script.send (.ilike (.text "name") (.text "%a_%-%"))
      ∧ ∀ s : String,
        r.FoundIn s.toList ↔ Matches "%a_%-%".toList s.toList := by
  intro r operand
  have hr : r.IsSimple := by decide
  have h : operand.regexSource = .ok r.text := rfl
  obtain ⟨pattern, hscript, hpattern, -, hiff⟩ :=
    found_matches hr h (.text "name")
  have hsource : anywhere (String.ofList (ofSource r.chars)) = "%a_%-%" := by
    decide
  rw [likePattern_eq r h] at hpattern
  obtain rfl : "%a_%-%" = pattern :=
    hsource.symm.trans (Except.ok.inj hpattern)
  exact ⟨by decide, hr, h, hscript, hiff rfl rfl⟩

end Filter

end DocFilter
