import DocFilter.LikePattern

/-!
# The pattern of a source, token by token

A source of a regular expression is read as tokens: a plain character, a
wildcard, or an **escape**, which is a backslash and the character it
stands before. The pattern is not made from tokens. It is made by rewriting
characters wherever they stand, and a rewriting may miss what a token means.

For all tokens but one it does not (`LikePattern.rewrite_flatMap`): what
follows a token never completes a wildcard with it, so tokens are rewritten
one by one, and a plain character, a wildcard and most escapes become what
they should. But the dot of an escape is rewritten as a wildcard is, and
behind the backslash now stands `_`. And an anchor is looked for in the last
character, whether a backslash stands before it or not: an escaped `$` at
the end is cut in two.

`LikePattern.ofSource_chars` gives the pattern of every source, and escapes
pass through untouched just where neither of the two happens
(`LikePattern.ofSource_chars_eq_image_iff`).
-/

namespace DocFilter

namespace LikePattern

/-! ## Tokens -/

/-- The characters that are no plain ones. -/
def isSpecial (c : Char) : Bool := ['\\', '.', '*', '^', '$'].contains c

/-- **A token of a source.** -/
inductive Token where
  /-- A character that stands for itself. -/
  | plain (c : Char) (h : isSpecial c = false)
  /-- Any one character. -/
  | anyChar
  /-- Any text. -/
  | anyText
  /-- A character with a backslash before it. -/
  | escape (c : Char)
  deriving DecidableEq

namespace Token

/-- The characters a token is written with. -/
def chars : Token → List Char
  | plain c _ => [c]
  | anyChar => ['.']
  | anyText => ['.', '*']
  | escape c => ['\\', c]

/-- **What a token should become**: only wildcards are respelled. -/
def image : Token → List Char
  | plain c _ => [c]
  | anyChar => ['_']
  | anyText => ['%']
  | escape c => ['\\', c]

/-- What a token becomes. The dot of an escape is respelled, too. -/
def rewritten : Token → List Char
  | escape c => ['\\', if c = '.' then '_' else c]
  | t => t.image

/-- A token is written with as many characters as it should be. -/
theorem length_rewritten (t : Token) :
    t.rewritten.length = t.image.length := by
  cases t <;> rfl

/-- **Only an escaped dot becomes what it should not.** -/
theorem rewritten_eq_image_iff {t : Token} :
    t.rewritten = t.image ↔ t ≠ .escape '.' := by
  cases t with
  | plain c h => exact ⟨fun _ => nofun, fun _ => rfl⟩
  | anyChar => exact ⟨fun _ => nofun, fun _ => rfl⟩
  | anyText => exact ⟨fun _ => nofun, fun _ => rfl⟩
  | escape c =>
    by_cases hc : c = '.'
    · subst hc
      exact ⟨fun h => absurd h (by decide), fun h => absurd rfl h⟩
    · simp [rewritten, image, hc]

/-- A token begins neither with an anchor nor with a star. -/
theorem head_chars (t : Token) :
    ∃ c cs, t.chars = c :: cs ∧ c ≠ '^' ∧ c ≠ '*' := by
  cases t with
  | plain c h =>
    refine ⟨c, [], rfl, ?_, ?_⟩ <;>
      · rintro rfl
        exact absurd h (by decide)
  | anyChar | anyText | escape c => exact ⟨_, _, rfl, by decide, by decide⟩

/-- Of all tokens only an escaped `$` still ends in a `$`. -/
theorem getLast?_rewritten_iff {t : Token} :
    t.rewritten.getLast? = some '$' ↔ t = .escape '$' := by
  cases t with
  | plain c h =>
    have hc : c ≠ '$' := by
      rintro rfl
      exact absurd h (by decide)
    simpa [rewritten, image] using hc
  | anyChar | anyText => decide
  | escape c =>
    by_cases hc : c = '.'
    · subst hc
      decide
    · simp [rewritten, hc]

end Token

/-- **A source as tokens**, with or without an anchor at either end. -/
structure Source where
  /-- Whether a `^` stands at the start. -/
  start : Bool
  /-- What stands between the anchors. -/
  tokens : List Token
  /-- Whether a `$` that is no part of an escape stands at the end. -/
  finish : Bool
  deriving DecidableEq

namespace Source

/-- The characters of a source. -/
def chars (r : Source) : List Char :=
  (if r.start then ['^'] else [])
    ++ (r.tokens.flatMap Token.chars ++ if r.finish then ['$'] else [])

/-- The text of a source. -/
def text (r : Source) : String := String.ofList r.chars

/-- **The pattern a source should have**: what its tokens should become,
without the anchors. -/
def image (r : Source) : List Char := r.tokens.flatMap Token.image

/-- **Whether escapes are kept**: none of a dot, and none of a `$` where an
anchor could stand. -/
def KeepsEscapes (r : Source) : Prop :=
  .escape '.' ∉ r.tokens
    ∧ (r.finish = false → r.tokens.getLast? ≠ some (.escape '$'))

instance : DecidablePred KeepsEscapes :=
  fun _ => inferInstanceAs (Decidable (_ ∧ _))

end Source

/-! ## Rewriting -/

/-- Both wildcards respelled: what is done between taking off the
anchors and the end. -/
def rewrite (cs : List Char) : List Char := anyChar (anyText cs)

/-- **What follows is rewritten by itself** if it does not begin with a
star. -/
theorem rewrite_append (cs : List Char) {ds : List Char}
    (h : ds.head? ≠ some '*') :
    rewrite (cs ++ ds) = rewrite cs ++ rewrite ds := by
  have hanyText : anyText (cs ++ ds) = anyText cs ++ anyText ds := by
    induction cs using anyText.induct with
    | case1 cs ih => exact congrArg ('%' :: ·) ih
    | case2 c cs hwild ih =>
      have hcs : anyText (c :: cs) = c :: anyText cs := by
        rw [anyText]
        exact hwild
      have hboth : anyText (c :: (cs ++ ds)) = c :: anyText (cs ++ ds) := by
        rw [anyText]
        -- A star would be the first of what follows, or stand in `cs`.
        intro es hc hes
        cases cs with
        | nil => exact h (congrArg List.head? hes)
        | cons d cs =>
          obtain ⟨rfl, rfl⟩ := List.cons.inj hes
          exact hwild cs hc rfl
      rw [List.cons_append, hboth, ih, hcs, List.cons_append]
    | case3 => rfl
  rw [rewrite, hanyText, anyChar, List.map_append]
  rfl

/-- The characters of a token are rewritten as they are by themselves. -/
theorem rewrite_chars (t : Token) : rewrite t.chars = t.rewritten := by
  cases t with
  | plain c h =>
    have hc : c ≠ '.' := by
      rintro rfl
      exact absurd h (by decide)
    simp [rewrite, anyChar, anyText, Token.chars, Token.rewritten,
      Token.image, hc]
  | anyChar | anyText => rfl
  | escape c => simp [rewrite, anyChar, anyText, Token.chars, Token.rewritten]

/-- What begins with tokens begins with no star, unless there are none. -/
theorem head?_flatMap_chars_append (ts : List Token) {ds : List Char}
    {c : Char} (hc : c = '^' ∨ c = '*') (h : ds.head? ≠ some c) :
    (ts.flatMap Token.chars ++ ds).head? ≠ some c := by
  cases ts with
  | nil => exact h
  | cons t ts =>
    obtain ⟨d, cs, ht, hmark, hstar⟩ := t.head_chars
    rw [List.flatMap_cons, ht]
    intro hd
    obtain rfl := Option.some.inj hd
    exact hc.elim hmark hstar

/-- **Tokens are rewritten one by one**, whatever follows them, if it does
not begin with a star. -/
theorem rewrite_flatMap (ts : List Token) {ds : List Char}
    (h : ds.head? ≠ some '*') :
    rewrite (ts.flatMap Token.chars ++ ds)
      = ts.flatMap Token.rewritten ++ rewrite ds := by
  induction ts with
  | nil => rfl
  | cons t ts ih =>
    have hnext := head?_flatMap_chars_append ts (Or.inr rfl) h
    rw [List.flatMap_cons, List.append_assoc, rewrite_append _ hnext, ih,
      rewrite_chars, List.flatMap_cons, List.append_assoc]

/-! ## Anchors -/

/-- Nothing but an anchor is taken off at the start. -/
theorem dropStart_of_ne {cs : List Char} (h : cs.head? ≠ some '^') :
    dropStart cs = cs := by
  unfold dropStart
  split
  · exact absurd rfl h
  · rfl

/-- An anchor at the end is taken off. -/
theorem dropEnd_concat (cs : List Char) : dropEnd (cs ++ ['$']) = cs := by
  rw [dropEnd, if_pos List.getLast?_concat, List.dropLast_concat]

/-- Nothing but an anchor is taken off at the end. -/
theorem dropEnd_of_ne {cs : List Char} (h : cs.getLast? ≠ some '$') :
    dropEnd cs = cs := if_neg h

/-- A wildcard leaves a character behind, as any character does. -/
theorem anyText_cons_ne_nil (c : Char) (cs : List Char) :
    anyText (c :: cs) ≠ [] := by
  unfold anyText
  split
  · exact List.cons_ne_nil _ _
  · exact List.cons_ne_nil _ _
  · next h => exact nomatch h

/-- **Rewriting puts no anchor at the end.** -/
theorem getLast?_of_rewrite {cs : List Char}
    (h : (rewrite cs).getLast? = some '$') : cs.getLast? = some '$' := by
  have hanyText : (anyText cs).getLast? = some '$' := by
    rw [rewrite, anyChar, List.getLast?_map] at h
    obtain ⟨d, hd, hdollar⟩ := Option.map_eq_some_iff.mp h
    split at hdollar
    · exact absurd hdollar (by decide)
    · rw [hd, hdollar]
  clear h
  induction cs using anyText.induct with
  | case1 cs ih =>
    cases cs with
    | nil => exact absurd hanyText (by decide)
    | cons c cs =>
      rw [anyText, List.getLast?_cons_of_ne_nil (anyText_cons_ne_nil c cs)]
        at hanyText
      exact ih hanyText
  | case2 c cs hwild ih =>
    rw [anyText] at hanyText
    · cases cs with
      | nil => exact hanyText
      | cons d cs =>
        rw [List.getLast?_cons_of_ne_nil (anyText_cons_ne_nil d cs)]
          at hanyText
        exact ih hanyText
    · exact hwild
  | case3 => exact nomatch hanyText

/-- **It is all the same whether an anchor is taken off the end before
rewriting or after it.** -/
theorem rewrite_dropEnd (cs : List Char) :
    rewrite (dropEnd cs) = dropEnd (rewrite cs) := by
  by_cases h : cs.getLast? = some '$'
  · obtain ⟨ds, rfl⟩ := List.getLast?_eq_some_iff.mp h
    rw [dropEnd_concat, rewrite_append ds (by decide)]
    exact (dropEnd_concat _).symm
  · rw [dropEnd_of_ne h, dropEnd_of_ne (mt getLast?_of_rewrite h)]

/-- **The pattern of a source**: its tokens, rewritten, without a `$` at the
end that is no anchor. -/
theorem ofSource_chars (r : Source) :
    ofSource r.chars
      = if r.finish then r.tokens.flatMap Token.rewritten
        else dropEnd (r.tokens.flatMap Token.rewritten) := by
  have hstart : dropStart r.chars = r.tokens.flatMap Token.chars
      ++ if r.finish then ['$'] else [] := by
    unfold Source.chars
    cases r.start with
    | true => rfl
    | false =>
      refine dropStart_of_ne (head?_flatMap_chars_append _ (Or.inl rfl) ?_)
      cases r.finish <;> decide
  show rewrite (dropEnd (dropStart r.chars)) = _
  rw [hstart, rewrite_dropEnd, rewrite_flatMap]
  · cases r.finish with
    | true => exact dropEnd_concat _
    | false =>
      show dropEnd (_ ++ []) = _
      rw [List.append_nil]
      rfl
  · cases r.finish <;> decide

/-! ## Escapes -/

/-- Rewritten tokens end in a `$` only if the last of them is an escape of
it. -/
theorem getLast?_flatMap_rewritten_iff {ts : List Token} :
    (ts.flatMap Token.rewritten).getLast? = some '$'
      ↔ ts.getLast? = some (.escape '$') := by
  obtain rfl | ⟨us, t, rfl⟩ := List.eq_nil_or_concat ts
  · decide
  · obtain ⟨c, hc⟩ : ∃ c, t.rewritten.getLast? = some c := by
      cases t <;> exact ⟨_, rfl⟩
    rw [List.concat_eq_append, List.flatMap_append, List.flatMap_singleton,
      List.getLast?_concat, List.getLast?_append, Option.some_inj,
      ← Token.getLast?_rewritten_iff, hc, Option.some_or]

/-- **Tokens become what they should if and only if each of them does.** -/
theorem flatMap_rewritten_eq_iff (ts : List Token) :
    ts.flatMap Token.rewritten = ts.flatMap Token.image
      ↔ .escape '.' ∉ ts := by
  induction ts with
  | nil => exact ⟨fun _ => List.not_mem_nil, fun _ => rfl⟩
  | cons t ts ih =>
    rw [List.flatMap_cons, List.flatMap_cons, List.mem_cons, not_or,
      ← ih, ← ne_eq, ne_comm, ← Token.rewritten_eq_image_iff]
    constructor
    · exact fun h => List.append_inj h t.length_rewritten
    · rintro ⟨h, hs⟩
      rw [h, hs]

/-- Tokens are written with as many characters as they should be. -/
theorem length_flatMap_rewritten (ts : List Token) :
    (ts.flatMap Token.rewritten).length
      = (ts.flatMap Token.image).length := by
  induction ts with
  | nil => rfl
  | cons t ts ih =>
    rw [List.flatMap_cons, List.flatMap_cons, List.length_append,
      List.length_append, t.length_rewritten, ih]

/-- **A source has the pattern it should have if and only if it keeps its
escapes.** -/
theorem ofSource_chars_eq_image_iff (r : Source) :
    ofSource r.chars = r.image ↔ r.KeepsEscapes := by
  rw [ofSource_chars, Source.KeepsEscapes, Source.image,
    ← flatMap_rewritten_eq_iff]
  cases r.finish with
  | true => exact ⟨fun h => ⟨h, nofun⟩, fun h => h.1⟩
  | false =>
    rw [if_neg Bool.false_ne_true]
    constructor
    · intro h
      -- With its last character taken off it would be too short.
      have hlast : (r.tokens.flatMap Token.rewritten).getLast? ≠ some '$' := by
        intro hlast
        obtain ⟨cs, hcs⟩ := List.getLast?_eq_some_iff.mp hlast
        have hlength := length_flatMap_rewritten r.tokens
        rw [← h, hcs, dropEnd_concat, List.length_append] at hlength
        exact Nat.succ_ne_self _ hlength
      rw [dropEnd_of_ne hlast] at h
      exact ⟨h, fun _ => mt getLast?_flatMap_rewritten_iff.mpr hlast⟩
    · rintro ⟨h, hlast⟩
      rw [dropEnd_of_ne (mt getLast?_flatMap_rewritten_iff.mp (hlast rfl)), h]

/-- The pattern a value gives is that of its source. -/
theorem likePattern_eq (r : Source) {v : Value}
    (h : v.regexSource = .ok r.text) :
    v.likePattern = .ok (String.ofList (ofSource r.chars)) := by
  rw [Value.likePattern, h, Source.text]
  show Except.ok (String.ofList (ofSource (String.ofList _).toList)) = _
  rw [String.toList_ofList]

/-- **Which escapes pass through untouched.** Whatever gives a source, its
pattern is its rewritten tokens, without a `$` at the end that is no anchor;
and this is the pattern it should have – all but wildcards left as it is,
all but anchors kept – if and only if no dot is escaped and no escaped `$`
stands where an anchor could. -/
theorem escapes_kept_iff (r : Source) {operand : Value}
    (h : operand.regexSource = .ok r.text) :
    operand.likePattern
        = .ok (String.ofList (if r.finish then
            r.tokens.flatMap Token.rewritten
          else dropEnd (r.tokens.flatMap Token.rewritten)))
      ∧ (operand.likePattern = .ok (String.ofList r.image)
        ↔ r.KeepsEscapes) := by
  rw [likePattern_eq r h, ← ofSource_chars_eq_image_iff]
  constructor
  · rw [ofSource_chars]
  · constructor
    · exact fun hr => String.ofList_injective (Except.ok.inj hr)
    · exact fun hr => by rw [hr]

/-- A source with escapes of a backslash, a star and a `$`, each next to a
wildcard or an anchor, keeps them. -/
theorem escapes_kept_iff_crowded :
    let r : Source := ⟨true, [.plain 'a' rfl, .escape '\\', .anyChar,
      .escape '*', .anyText, .plain 'b' rfl, .escape '$'], true⟩
    (Value.text r.text).regexSource = .ok r.text
      ∧ r.text = "^a\\\\.\\*.*b\\$$" ∧ r.KeepsEscapes
      ∧ (Value.text r.text).likePattern = .ok "a\\\\_\\*%b\\$" := by
  intro r
  exact ⟨rfl, by decide, by decide,
    (escapes_kept_iff r rfl).2.mpr (by decide)⟩

/-- An escaped dot becomes `_` behind its backslash, and of an escaped `$`
at the end only the backslash stays. -/
theorem escapes_rewritten :
    let dot : Source :=
      ⟨false, [.plain 'a' rfl, .escape '.', .plain 'b' rfl], false⟩
    let dollar : Source := ⟨false, [.plain 'a' rfl, .escape '$'], false⟩
    (dot.text = "a\\.b" ∧ String.ofList dot.image = "a\\.b"
        ∧ (Value.text dot.text).likePattern = .ok "a\\_b")
      ∧ dollar.text = "a\\$" ∧ String.ofList dollar.image = "a\\$"
        ∧ (Value.text dollar.text).likePattern = .ok "a\\" := by
  intro dot dollar
  have hdot : String.ofList (ofSource dot.chars) = "a\\_b" := by decide
  have hdollar : String.ofList (ofSource dollar.chars) = "a\\" := by decide
  exact ⟨⟨by decide, by decide, hdot ▸ likePattern_eq dot rfl⟩,
    by decide, by decide, hdollar ▸ likePattern_eq dollar rfl⟩

end LikePattern

end DocFilter
