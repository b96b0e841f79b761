import DocFilter.Decimal.Binary64

/-!
# The shortest decimal text of a number

A finite number is written with the **fewest digits that read back** to
it. The decimals that read back form an interval around the number, half
a unit of its last bit to either side – a quarter below a power of two –
with the ends included exactly when the significand is even.

`Shortest.decimal` looks for the first power of ten whose multiples hit
that interval. Only the two multiples next to the number have to be
tried: if any lies in the interval, one of these does. Of two hits the
nearer is taken, and of two equally near the even one.

`DecimalStyle` holds the decisions of the written form, and
`Binary64.text` writes a number in the one style the library uses.
-/

namespace DocFilter

/-- A positive decimal `coefficient · 10 ^ power`. -/
structure Decimal where
  /-- The digits, read as one number. -/
  coefficient : Nat
  /-- The power of ten of the last digit. -/
  power : Int
  deriving DecidableEq

namespace Shortest

/-- The number of decimal digits of `n`. -/
def decimalLength (n : Nat) : Nat := (Nat.toDigits 10 n).length

/-- The integer part of the decimal logarithm of `num / den`. -/
def decimalLog (num den : Nat) : Int :=
  let k : Int := (decimalLength num : Int) - (decimalLength den : Int)
  if den * Nat.pow 10 k.toNat ≤ num * Nat.pow 10 (-k).toNat then k
  else k - 1

/-- **The multiple of `10 ^ p` that reads back to `m · 2 ^ q`**, if there
is one: of the two next to the number, the nearer of those inside the
interval. All sides are scaled to integers by `4`, `2 ^ q` and
`10 ^ p`. -/
def multiple? (m : Nat) (q p : Int) : Option Nat :=
  let up := Nat.pow 2 q.toNat * Nat.pow 10 (-p).toNat
  let unit := 4 * Nat.pow 2 (-q).toNat * Nat.pow 10 p.toNat
  let value := 4 * m * up
  let low := (4 * m - if m = Nat.pow 2 52 ∧ -1074 < q then 1 else 2) * up
  let high := (4 * m + 2) * up
  let inside (c : Nat) : Bool :=
    if m % 2 = 0 then low ≤ c * unit && c * unit ≤ high
    else low < c * unit && c * unit < high
  let c := value / unit
  let below := value - c * unit
  let above := (c + 1) * unit - value
  match inside c, inside (c + 1) with
  | true, true =>
    if below < above then some c
    else if above < below then some (c + 1)
    else some (c + c % 2)
  | true, false => some c
  | false, true => some (c + 1)
  | false, false => none

/-- A decimal without trailing zeros in its coefficient. The first
argument bounds the zeros taken off. -/
def trim : Nat → Decimal → Decimal
  | 0, d => d
  | n + 1, d =>
    if d.coefficient % 10 = 0 then trim n ⟨d.coefficient / 10, d.power + 1⟩
    else d

/-- **The shortest decimal that reads back to `m · 2 ^ q`**, for a
positive significand: the first of one to seventeen digits that hits the
interval. Seventeen always do. -/
def decimal (m : Nat) (q : Int) : Decimal :=
  let k := decimalLog (m * Nat.pow 2 q.toNat) (Nat.pow 2 (-q).toNat)
  let hit := (List.range 17).findSome? fun (n : Nat) =>
    (multiple? m q (k - n)).map fun c => (⟨c, k - n⟩ : Decimal)
  trim 17 (hit.getD ⟨0, 0⟩)

end Shortest

/-- **How a decimal is written**: between which decimal exponents it is
written out, and with how many digits an exponent is written at least. -/
structure DecimalStyle where
  /-- The least exponent of the first digit that is written out. -/
  lowest : Int
  /-- The greatest exponent of the first digit that is written out. -/
  highest : Int
  /-- The least number of digits of a written exponent. -/
  exponentDigits : Nat

namespace DecimalStyle

/-- A written exponent: a sign and at least `width` digits. -/
def exponentText (width : Nat) (e : Int) : List Char :=
  let ds := Nat.toDigits 10 e.natAbs
  (if e < 0 then '-' else '+') :: (List.replicate (width - ds.length) '0' ++ ds)

/-- The text of a decimal in a style. A whole number that is written out
keeps a fraction of one zero. -/
def write (style : DecimalStyle) (d : Decimal) : List Char :=
  let ds := Nat.toDigits 10 d.coefficient
  let e : Int := (ds.length : Int) - 1 + d.power
  if style.lowest ≤ e ∧ e ≤ style.highest then
    if e < 0 then
      '0' :: '.' :: (List.replicate (-e - 1).toNat '0' ++ ds)
    else if (ds.length : Int) ≤ e + 1 then
      ds ++ List.replicate d.power.toNat '0' ++ ['.', '0']
    else
      ds.take (e + 1).toNat ++ '.' :: ds.drop (e + 1).toNat
  else
    ds.take 1 ++ (if ds.length ≤ 1 then [] else '.' :: ds.drop 1)
      ++ 'e' :: exponentText style.exponentDigits e

end DecimalStyle

namespace Binary64

/-- Numbers from `0.0001` up to sixteen digits before the point are
written out; other exponents have two digits or more. -/
def style : DecimalStyle := ⟨-4, 15, 2⟩

/-- **The text of a number**: its shortest decimal in `Binary64.style`,
with the sign of a zero kept. -/
def text (x : Binary64) : String :=
  if x.isNaN then "nan"
  else
    let sign := if x.negative then "-" else ""
    if !x.isFinite then sign ++ "inf"
    else if x.isZero then sign ++ "0.0"
    else sign ++ String.ofList
      (style.write (Shortest.decimal x.significand x.scale))

end Binary64

end DocFilter
