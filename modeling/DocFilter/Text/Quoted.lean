import DocFilter.Text.Printable

/-!
# Quoted text

The written form of a text between quotes. The quote is an apostrophe,
unless the text holds one and holds no double quote: then it is a double
quote, and nothing has to be escaped. Inside, the backslash and the
chosen quote take a backslash, three blanks have a letter of their own,
and a character that is not shown is written by its code point in as
many hexadecimal digits as its size asks for.

Which characters are shown is an argument, so that a text and a byte
string share the form.
-/

namespace DocFilter.Quoted

/-- The usual quote. -/
def apostrophe : Char := '\x27'

/-- The quote of a text that holds an apostrophe. -/
def doubleQuote : Char := '\x22'

/-- **The quote of a text.** -/
def quoteOf (cs : List Char) : Char :=
  if cs.contains apostrophe && !cs.contains doubleQuote then doubleQuote
  else apostrophe

/-- A number in hexadecimal, filled up with zeros to `width` digits. -/
def hex (width n : Nat) : List Char :=
  let ds := Nat.toDigits 16 n
  List.replicate (width - ds.length) '0' ++ ds

/-- A character by its code point: two, four or eight digits. -/
def codePoint (c : Char) : List Char :=
  let n := c.toNat
  if n < 0x100 then '\\' :: 'x' :: hex 2 n
  else if n < 0x10000 then '\\' :: 'u' :: hex 4 n
  else '\\' :: 'U' :: hex 8 n

/-- **One character inside quotes.** -/
def escape (shown : Char → Bool) (quote c : Char) : List Char :=
  if c = quote ∨ c = '\\' then ['\\', c]
  else if c = '\t' then ['\\', 't']
  else if c = '\n' then ['\\', 'n']
  else if c = '\r' then ['\\', 'r']
  else if shown c then [c]
  else codePoint c

/-- **A text between its quotes.** -/
def encode (shown : Char → Bool) (cs : List Char) : List Char :=
  let quote := quoteOf cs
  quote :: (cs.flatMap (escape shown quote) ++ [quote])

/-- The quoted form of a text. -/
def ofText (s : String) : String :=
  String.ofList (encode Printable.isPrintable s.toList)

/-- The quoted form of a byte string, marked by a leading `b`. -/
def ofBytes (bs : List UInt8) : String :=
  "b" ++ String.ofList (encode Printable.isPrintableAscii
    (bs.map fun b => Char.ofNat b.toNat))

end DocFilter.Quoted
