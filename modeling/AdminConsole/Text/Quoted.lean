import AdminConsole.Text.Case
import AdminConsole.Text.PrintableTable

/-!
# Text/Quoted — quoted text inside a displayed value

A text is quoted with `'`, or with `"` when it holds `'` and no `"`. The backslash, the chosen
quote, line breaks and tabs are escaped, and so is every character that has no shape of its own.
-/

namespace AdminConsole.Text

/-- Whether a character is shown as it is. -/
def isPrintable (c : Char) : Bool :=
  if c.toNat < 127 then 32 ≤ c.toNat else inRanges printableRanges c.toNat

/-- The lower-case hexadecimal digits of a number, in `width` places. -/
def hexDigits (width n : Nat) : List Char :=
  let ds := Nat.toDigits 16 n
  List.replicate (width - ds.length) '0' ++ ds

/-- The quote for a text. -/
def quoteFor (cs : List Char) : Char :=
  if cs.contains '\x27' && !cs.contains '\x22' then '\x22' else '\x27'

/-- One character inside quotes. -/
def escapeChar (quote c : Char) : List Char :=
  if c = quote || c = '\\' then ['\\', c]
  else if c = '\n' then ['\\', 'n']
  else if c = '\r' then ['\\', 'r']
  else if c = '\t' then ['\\', 't']
  else if isPrintable c then [c]
  else if c.toNat ≤ 0xff then '\\' :: 'x' :: hexDigits 2 c.toNat
  else if c.toNat ≤ 0xffff then '\\' :: 'u' :: hexDigits 4 c.toNat
  else '\\' :: 'U' :: hexDigits 8 c.toNat

/-- A text in quotes. -/
def quoted (s : String) : String :=
  let cs := s.toList
  let quote := quoteFor cs
  String.ofList (quote :: (cs.flatMap (escapeChar quote) ++ [quote]))

/-- Bytes in quotes, after a `b`; only printable ASCII is shown unescaped. -/
def quotedBytes (bs : List UInt8) : String :=
  let cs := bs.map fun b => Char.ofNat b.toNat
  let quote := quoteFor cs
  let escape (c : Char) : List Char :=
    if 127 ≤ c.toNat then '\\' :: 'x' :: hexDigits 2 c.toNat else escapeChar quote c
  String.ofList ('b' :: quote :: (cs.flatMap escape ++ [quote]))

end AdminConsole.Text
