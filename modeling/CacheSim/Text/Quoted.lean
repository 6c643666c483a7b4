import CacheSim.Text.GraphemeExtend
import CacheSim.Text.Unprintable

/-!
# Quoted texts

Texts that stand in messages are put in quotes.  Quotes, backslashes and the common controls are
written with a backslash, and a character that could not be seen, or would merge with the one
before it, is written as its number.
-/

namespace CacheSim.Text

/-- The digits of a number in base 16. -/
def hex (n : Nat) : List Char :=
  Nat.toDigits 16 n

/-- A character as it stands between quotes. -/
def quoteChar (c : Char) : List Char :=
  if c = '\x00' then ['\\', '0']
  else if c = '\t' then ['\\', 't']
  else if c = '\r' then ['\\', 'r']
  else if c = '\n' then ['\\', 'n']
  else if c = '\x22' then ['\\', '\x22']
  else if c = '\\' then ['\\', '\\']
  else if 0x20 ≤ c.toNat ∧ c.toNat < 0x7f then [c]
  else if isGraphemeExtend c || isUnprintable c then
    '\\' :: 'u' :: '\x7b' :: hex c.toNat ++ ['\x7d']
  else [c]

/-- A text in quotes. -/
def quoted (s : String) : String :=
  String.ofList ('\x22' :: s.toList.flatMap quoteChar ++ ['\x22'])

end CacheSim.Text
