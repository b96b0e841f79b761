/-!
# Shortened text

A text cut off after so many bytes of its UTF-8 form. A character that the
cut runs through leaves the replacement character in its place, so what
remains is a text again.
-/

namespace DocFilter.Shortened

/-- The character that stands for a broken one. -/
def replacement : Char := Char.ofNat 0xfffd

/-- **The characters within a number of bytes.** -/
def take : Nat → List Char → List Char
  | _, [] => []
  | limit, c :: cs =>
    if c.utf8Size ≤ limit then c :: take (limit - c.utf8Size) cs
    else if limit = 0 then []
    else [replacement]

/-- The bytes of some characters. -/
def size (cs : List Char) : Nat :=
  cs.foldr (fun c n => c.utf8Size + n) 0

/-- A text that fits is not cut. -/
theorem take_of_size_le {limit : Nat} {cs : List Char}
    (h : size cs ≤ limit) : take limit cs = cs := by
  induction cs generalizing limit with
  | nil => rfl
  | cons c cs ih =>
    have hc : c.utf8Size + size cs ≤ limit := by
      simpa [size] using h
    have hs : size cs ≤ limit - c.utf8Size := by omega
    rw [take, if_pos (by omega), ih hs]

/-- A text cut off after so many bytes. -/
def ofText (limit : Nat) (s : String) : String :=
  String.ofList (take limit s.toList)

end DocFilter.Shortened
