import Chip8.Text.LoneHalf
import Chip8.Text.Numeral
import Chip8.Text.Printable

namespace Chip8.Text

/-!
# Quoted text

How a text is shown inside a message: between single quotes, or between double quotes when it holds
a single quote and no double one.  Inside, the backslash and the chosen quote get a backslash,
line feed, carriage return and tab their letters, and any other character that is not printable a
numbered escape of two, four or eight digits.  A lone half of a pair is shown by its own number.
-/

/-- The quote that surrounds a text. -/
def quoteFor (cs : List Char) : Char :=
  if '\'' ∈ cs ∧ '"' ∉ cs then '"' else '\''

/-- A code point in lower-case hexadecimal with at least `width` digits. -/
def escapeDigits (width n : Nat) : List Char :=
  ((digits 16 n).map Char.toLower).leftpad width '0'

/-- The form of one character inside quotes. -/
def quoteChar (quote c : Char) : List Char :=
  if c = quote ∨ c = '\\' then ['\\', c]
  else if c = '\n' then ['\\', 'n']
  else if c = '\r' then ['\\', 'r']
  else if c = '\t' then ['\\', 't']
  else if isPrintable c then [c]
  else if let some unit := half? c then '\\' :: 'u' :: escapeDigits 4 unit
  else if c.toNat < 256 then '\\' :: 'x' :: escapeDigits 2 c.toNat
  else if c.toNat < 65536 then '\\' :: 'u' :: escapeDigits 4 c.toNat
  else '\\' :: 'U' :: escapeDigits 8 c.toNat

/-- A text between quotes. -/
def quoted (s : String) : String :=
  let cs := s.toList
  let quote := quoteFor cs
  String.ofList (quote :: cs.flatMap (quoteChar quote) ++ [quote])

end Chip8.Text
