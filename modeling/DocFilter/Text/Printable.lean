import DocFilter.Text.Unassigned

/-!
# Printable characters

Which characters a quoted text shows as they are. The others are the
control characters, the separators other than the plain space, the format
characters, the private-use areas and the unassigned code points of
Unicode, by their ranges.
-/

namespace DocFilter.Printable

/-- Control characters. -/
def controls : List (Nat × Nat) := [(0x0, 0x1f), (0x7f, 0x9f)]

/-- Separators, the plain space excepted. -/
def separators : List (Nat × Nat) :=
  [(0xa0, 0xa0), (0x1680, 0x1680), (0x2000, 0x200a), (0x2028, 0x2029),
   (0x202f, 0x202f), (0x205f, 0x205f), (0x3000, 0x3000)]

/-- Format characters. -/
def formats : List (Nat × Nat) :=
  [(0xad, 0xad), (0x600, 0x605), (0x61c, 0x61c), (0x6dd, 0x6dd),
   (0x70f, 0x70f), (0x890, 0x891), (0x8e2, 0x8e2), (0x180e, 0x180e),
   (0x200b, 0x200f), (0x202a, 0x202e), (0x2060, 0x2064), (0x2066, 0x206f),
   (0xfeff, 0xfeff), (0xfff9, 0xfffb), (0x110bd, 0x110bd),
   (0x110cd, 0x110cd), (0x13430, 0x13438), (0x1bca0, 0x1bca3),
   (0x1d173, 0x1d17a), (0xe0001, 0xe0001), (0xe0020, 0xe007f)]

/-- Private-use areas. -/
def privateUse : List (Nat × Nat) :=
  [(0xe000, 0xf8ff), (0xf0000, 0xffffd), (0x100000, 0x10fffd)]

/-- All ranges of characters that are not shown. -/
def hidden : List (Nat × Nat) :=
  controls ++ separators ++ formats ++ privateUse ++ Unassigned.ranges

/-- **Whether a character is shown as it is.** -/
def isPrintable (c : Char) : Bool :=
  !hidden.any fun (lo, hi) => lo ≤ c.toNat && c.toNat ≤ hi

/-- The printable characters of ASCII, the only ones a quoted byte string
shows. -/
def isPrintableAscii (c : Char) : Bool :=
  0x20 ≤ c.toNat && c.toNat < 0x7f

-- The plain space is the one separator that is shown.
example : (isPrintable ' ', isPrintable '\t') = (true, false) := by
  decide +kernel

-- A letter of the Armenian block, and the code point in front of it.
example : (isPrintable '\u0531', isPrintable '\u0530') = (true, false) := by
  decide +kernel

end DocFilter.Printable
