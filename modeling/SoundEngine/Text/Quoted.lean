import SoundEngine.Text.Visible

/-!
# Quoted text

A text inside a message stands between quotation marks.  A quotation mark, a backslash and the
usual control characters are written with a backslash and one character, everything else that
would not be seen as itself by its code point, `\u{200b}`.
-/

namespace SoundEngine.Quoted

/-- A code point in hexadecimal, between braces. -/
def codePoint (c : Char) : List Char :=
  ['\\', 'u', '\x7b'] ++ Nat.toDigits 16 c.toNat ++ ['\x7d']

/-- One character of a quoted text. -/
def escape (c : Char) : List Char :=
  if c = '"' then ['\\', '"']
  else if c = '\\' then ['\\', '\\']
  else if c = '\n' then ['\\', 'n']
  else if c = '\r' then ['\\', 'r']
  else if c = '\t' then ['\\', 't']
  else if c.toNat = 0 then ['\\', '0']
  else if showsAlone c then [c]
  else codePoint c

/-- The text between quotation marks. -/
def write (s : String) : List Char :=
  '"' :: (s.toList.flatMap escape ++ ['"'])

end SoundEngine.Quoted

namespace SoundEngine

/-- The text as it is shown in messages, between quotation marks. -/
def quoted (s : String) : String := String.ofList (Quoted.write s)

end SoundEngine
