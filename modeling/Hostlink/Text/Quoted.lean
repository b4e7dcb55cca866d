import Hostlink.Text.Hex
import Hostlink.Text.Printable

/-!
# Quoted text

The form in which a text is shown inside diagnostics: between double quotes, with quotes,
backslashes and characters that have no shape of their own spelled out.
-/

namespace Hostlink.Text

/-- One character of a quoted text. -/
def quoteChar (c : Char) : List Char :=
  if c = '"' then ['\\', '"']
  else if c = '\\' then ['\\', '\\']
  else if c = '\n' then ['\\', 'n']
  else if c = '\r' then ['\\', 'r']
  else if c = '\t' then ['\\', 't']
  else if c = '\x00' then ['\\', '0']
  else if isHidden c then ['\\', 'u', '\x7b'] ++ hexNat c.toNat ++ ['\x7d']
  else [c]

/-- The quoted form of a list of characters. -/
def quoteChars (cs : List Char) : List Char :=
  '"' :: (cs.flatMap quoteChar ++ ['"'])

/-- The quoted form of a text. -/
def quote (s : String) : String := String.ofList (quoteChars s.toList)

end Hostlink.Text
