import SkyCatalog.Text.Printable

/-!
# Quoted text — a line shown on one line, whatever it holds

Log lines and usage errors show what the user typed between quotes. The quote is `'`,
unless the text holds `'` and no `"`. A backslash and the quote in use are escaped, tab,
line feed and carriage return have letters of their own, and every other unprintable
character is written by its number in two, four or eight hexadecimal digits.
-/

namespace SkyCatalog.Text

/-- A number in lower-case hexadecimal, filled with zeros up to a width. -/
def hexadecimal (width n : Nat) : List Char :=
  let digits := Nat.toDigits 16 n
  List.replicate (width - digits.length) '0' ++ digits

/-- The written form of one character between quotes. -/
def escape (quote c : Char) : List Char :=
  if c == quote || c == '\\' then ['\\', c]
  else if c == '\t' then ['\\', 't']
  else if c == '\n' then ['\\', 'n']
  else if c == '\r' then ['\\', 'r']
  else if isPrintable c then [c]
  else if c.toNat ≤ 0xFF then '\\' :: 'x' :: hexadecimal 2 c.toNat
  else if c.toNat ≤ 0xFFFF then '\\' :: 'u' :: hexadecimal 4 c.toNat
  else '\\' :: 'U' :: hexadecimal 8 c.toNat

/-- The quote that a text is put between. -/
def quoteOf (s : List Char) : Char :=
  if s.contains '\'' && !s.contains '"' then '"' else '\''

/-- A text between quotes. -/
def quoted (s : String) : String :=
  let quote := quoteOf s.toList
  String.ofList (quote :: s.toList.flatMap (escape quote) ++ [quote])

end SkyCatalog.Text
