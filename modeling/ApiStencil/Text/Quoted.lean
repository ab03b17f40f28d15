import ApiStencil.Text.Case
import ApiStencil.Text.Hex
import ApiStencil.Text.PrintTable

/-!
# Quoted text

The form in which a text stands in a message: between double quotes, with escapes for the quote, the
backslash and every character that would not be seen as itself.

## Main definitions

* `quoted` - the quoted form of a text.
-/

namespace ApiStencil.Text

/-- The numeric escape of a character. -/
def numericEscape (c : Char) : List Char :=
  ['\\', 'u', '\x7b'] ++ hexDigits c.toNat ++ ['\x7d']

/-- The quoted form of one character. -/
def quoteChar (c : Char) : List Char :=
  if c == '\x00' then ['\\', '0']
  else if c == '\t' then ['\\', 't']
  else if c == '\r' then ['\\', 'r']
  else if c == '\n' then ['\\', 'n']
  else if c == '"' then ['\\', '"']
  else if c == '\\' then ['\\', '\\']
  else if inRanges joiningRanges c || inRanges hiddenRanges c then numericEscape c
  else [c]

/-- A text between double quotes. -/
def quoted (s : String) : String :=
  String.ofList ('"' :: s.toList.flatMap quoteChar ++ ['"'])

end ApiStencil.Text
