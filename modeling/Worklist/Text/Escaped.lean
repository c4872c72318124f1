import Worklist.Text.LetterCase
import Worklist.Text.Visible

/-!
# Texts inside messages

A text that a message quotes stands in double quotes. A quote, a backslash and the characters that
have no visible form of their own are written as escapes.
-/

set_option autoImplicit false

namespace Worklist.Text

/-- Whether a character is shown as it is. -/
def isVisible (c : Char) : Bool :=
  let n := c.toNat
  if n < 0x80 then 0x20 ≤ n && n < 0x7F
  else if n < 0x10000 then inRanges visibleBasicRanges n
  else inRanges visibleAstralRanges n

/-- The escape of a character by its number: `\u`, and the hexadecimal number in braces. -/
def numericEscape (c : Char) : List Char :=
  '\\' :: 'u' :: '\x7b' :: (Nat.toDigits 16 c.toNat ++ ['\x7d'])

/-- A character of a quoted text. -/
def escapeChar (c : Char) : List Char :=
  if c = '"' then ['\\', '"']
  else if c = '\\' then ['\\', '\\']
  else if c = '\n' then ['\\', 'n']
  else if c = '\r' then ['\\', 'r']
  else if c = '\t' then ['\\', 't']
  else if c.toNat = 0 then ['\\', '0']
  else if isVisible c then [c]
  else numericEscape c

/-- A text as a message quotes it. -/
def quoted (s : String) : String :=
  String.ofList ('"' :: (s.toList.flatMap escapeChar ++ ['"']))

end Worklist.Text
