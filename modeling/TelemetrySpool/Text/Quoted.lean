import TelemetrySpool.Text.Invisible

/-!
# Quoted text

Text between quotation marks in which every character can be seen: both kinds of quotation marks and
the backslash have a backslash in front of them, some controls have a letter, and every other
character without a shape is written as its number.
-/

namespace TelemetrySpool.Text

/-- The number of a character, in braces. -/
def numbered (c : Char) : List Char :=
  '\\' :: 'u' :: '\x7b' :: Nat.toDigits 16 c.toNat ++ ['\x7d']

/-- A character of quoted text. -/
def quotedChar (c : Char) : List Char :=
  if c = '"' ∨ c = '\'' ∨ c = '\\' then ['\\', c]
  else if c = '\n' then ['\\', 'n']
  else if c = '\r' then ['\\', 'r']
  else if c = '\t' then ['\\', 't']
  else if c = '\x00' then ['\\', '0']
  else if isInvisible c then numbered c
  else [c]

/-- Text between quotation marks. -/
def quoted (text : List Char) : List Char := '"' :: text.flatMap quotedChar ++ ['"']

end TelemetrySpool.Text
