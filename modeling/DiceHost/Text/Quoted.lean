/-
Text between quotes, as it is shown in messages.

* `escapeShown`: a character: quotes, backslashes and what is not shown by itself are
  escaped;
* `quoted`: a text between quotes.
-/
import DiceHost.Text.Hex
import DiceHost.Text.Printable

namespace DiceHost.Text

/-- A character between quotes. One that is not shown by itself is written as its code
point, in lower-case digits without leading zeros. -/
def escapeShown (c : Char) : List Char :=
  if c = '"' then ['\\', '"']
  else if c = '\\' then ['\\', '\\']
  else if c = '\t' then ['\\', 't']
  else if c = '\r' then ['\\', 'r']
  else if c = '\n' then ['\\', 'n']
  else if c = '\x00' then ['\\', '0']
  else if isPrintable c then [c]
  else '\\' :: 'u' :: '\x7b' :: (Nat.toDigits 16 c.toNat ++ ['\x7d'])

/-- A text between quotes. -/
def quoted (s : String) : String :=
  String.ofList ('"' :: (s.toList.flatMap escapeShown ++ ['"']))

end DiceHost.Text
