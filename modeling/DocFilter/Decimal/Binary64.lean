/-!
# Binary64 numbers

The 64-bit binary floating-point format, in exact integer arithmetic. A
number is its three fields – sign, exponent, fraction – so two numbers
are equal exactly when their bits are, and every value of the type is a
number of the format: no invariant has to be carried.

A finite number is `± m · 2 ^ q` with the significand `m` and the scale
`q` read off the fields. What the library asks of a number is asked of
`m` and `q`:

* `Binary64.integer?` – the integer it stands for, if it is whole;
* `Binary64.ofRatio` – the nearest number to a quotient, ties to even;
* `Binary64.addInt` – a sum with an integer, rounded once.
-/

namespace DocFilter

/-- **A 64-bit floating-point number**, by its fields. The exponent is
biased; its last value is kept for the infinities and the NaNs. -/
structure Binary64 where
  /-- The sign bit. -/
  negative : Bool
  /-- The eleven bits of the biased exponent. -/
  exponent : Fin 2048
  /-- The fifty-two bits of the fraction, a number below `2 ^ 52`. -/
  fraction : Fin 4503599627370496
  deriving DecidableEq

namespace Binary64

/-- The positive or negative zero. -/
def zero (negative : Bool) : Binary64 := ⟨negative, 0, 0⟩

/-- The positive or negative infinity. -/
def infinity (negative : Bool) : Binary64 := ⟨negative, 2047, 0⟩

/-- The NaN that reading produces. -/
def nan : Binary64 := ⟨false, 2047, 1⟩

/-- Neither an infinity nor a NaN. -/
def isFinite (x : Binary64) : Bool := x.exponent != 2047

/-- Not a number. -/
def isNaN (x : Binary64) : Bool := !x.isFinite && x.fraction != 0

/-- One of the two zeros. -/
def isZero (x : Binary64) : Bool := x.exponent == 0 && x.fraction == 0

/-- The significand `m` of a finite number `± m · 2 ^ q`. -/
def significand (x : Binary64) : Nat :=
  if x.exponent = 0 then x.fraction.val else Nat.pow 2 52 + x.fraction.val

/-- The scale `q` of a finite number `± m · 2 ^ q`. -/
def scale (x : Binary64) : Int :=
  if x.exponent = 0 then -1074 else (x.exponent.val : Int) - 1075

/-- The significand with the sign of the number. -/
def signed (x : Binary64) : Int :=
  if x.negative then -(x.significand : Int) else x.significand

/-- **The integer a number stands for**, if it is finite and whole. Both
zeros stand for `0`, and a large number for all its digits. -/
def integer? (x : Binary64) : Option Int :=
  if !x.isFinite then none
  else if 0 ≤ x.scale then some (x.signed * Nat.pow 2 x.scale.toNat)
  else if x.significand % Nat.pow 2 (-x.scale).toNat = 0 then
    some (x.signed / Nat.pow 2 (-x.scale).toNat)
  else none

/-- **Equality of numbers**: the two zeros are equal, and a NaN equals
nothing, itself included. -/
def sameNumber (x y : Binary64) : Bool :=
  !x.isNaN && (x == y || (x.isZero && y.isZero))

/-! ## Rounding -/

/-- The integer nearest to `num / den`; a half goes to the even one. -/
def roundHalfEven (num den : Nat) : Nat :=
  let q := num / den
  let r := num % den
  if 2 * r < den then q
  else if den < 2 * r then q + 1
  else q + q % 2

/-- The integer part of the binary logarithm of `num / den`. -/
def binaryLog (num den : Nat) : Int :=
  let a : Int := (Nat.log2 num : Int) - (Nat.log2 den : Int)
  if den * Nat.pow 2 a.toNat ≤ num * Nat.pow 2 (-a).toNat then a else a - 1

/-- The number `± m · 2 ^ q`, for a significand of at most `2 ^ 53` at the
scale rounding chose; above the largest finite number, infinity. -/
def ofScaled (negative : Bool) (m : Nat) (q : Int) : Binary64 :=
  let (m, q) := if m = Nat.pow 2 53 then (Nat.pow 2 52, q + 1) else (m, q)
  if m < Nat.pow 2 52 then ⟨negative, 0, Fin.ofNat _ m⟩
  else if 971 < q then infinity negative
  else ⟨negative, Fin.ofNat _ (q + 1075).toNat, Fin.ofNat _ (m - Nat.pow 2 52)⟩

/-- **The number nearest to `± num / den`**, ties to even. The scale
leaves fifty-three bits before the point, or fewer at the bottom of the
range, where the scale is fixed. -/
def ofRatio (negative : Bool) (num den : Nat) : Binary64 :=
  let q := max (-1074) (binaryLog num den - 52)
  ofScaled negative
    (roundHalfEven (num * Nat.pow 2 (-q).toNat) (den * Nat.pow 2 q.toNat))
    q

/-- **The sum of a number and an integer**, rounded once to the nearest
number. Infinities and NaNs stay what they are. -/
def addInt (x : Binary64) (k : Int) : Binary64 :=
  if !x.isFinite then x
  else
    let den : Nat := Nat.pow 2 (-x.scale).toNat
    let sum := x.signed * Nat.pow 2 x.scale.toNat + k * (den : Int)
    ofRatio (sum < 0) sum.natAbs den

/-! ## Reading -/

/-- The digits of a text as a number, and `none` when one of the
characters is no digit. -/
def readDigits (cs : List Char) : Option Nat :=
  cs.foldl (fun acc c => acc.bind fun n =>
    if c.isDigit then some (10 * n + (c.toNat - '0'.toNat)) else none)
    (some 0)

/-- A decimal exponent: digits after an optional sign. -/
def readExponent : List Char → Option Int
  | '-' :: cs => (readDigits cs).map fun n => -(n : Int)
  | '+' :: cs => (readDigits cs).map Int.ofNat
  | cs => (readDigits cs).map Int.ofNat

/-- An unsigned number: digits, an optional fraction, an optional
exponent. The value is rounded once. -/
def readMagnitude (negative : Bool) (cs : List Char) : Option Binary64 :=
  let mantissa := cs.takeWhile (· != 'e')
  let tail := (cs.dropWhile (· != 'e')).drop 1
  let whole := mantissa.takeWhile (· != '.')
  let part := (mantissa.dropWhile (· != '.')).drop 1
  (readDigits (whole ++ part)).bind fun n =>
    (readExponent tail).map fun e =>
      let p : Int := e - part.length
      ofRatio negative (n * Nat.pow 10 p.toNat) (Nat.pow 10 (-p).toNat)

/-- **A number from its decimal text**, rounded to the nearest; the words
`inf` and `nan` stand for themselves. -/
def ofText? (s : String) : Option Binary64 :=
  match s.toList with
  | ['n', 'a', 'n'] => some nan
  | ['i', 'n', 'f'] => some (infinity false)
  | ['-', 'i', 'n', 'f'] => some (infinity true)
  | '-' :: cs => readMagnitude true cs
  | cs => readMagnitude false cs

end Binary64

end DocFilter
