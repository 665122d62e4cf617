import SoundEngine.Json.Reader

/-!
# Texts of a document

A text stands between quotation marks.  Reading it undoes the escapes; a text that is ignored is
only followed to its end, so that its escapes must have the right shape but surrogates need no
partner.  Writing escapes the quotation mark, the backslash and the control characters, nothing
else.
-/

namespace SoundEngine.Json

open Reader

/-! ## 1. Escapes -/

/-- The character meant by a backslash and one letter. -/
def shortEscape? (c : Char) : Option Char :=
  if c = '"' then some '"'
  else if c = '\\' then some '\\'
  else if c = '/' then some '/'
  else if c = 'b' then some '\x08'
  else if c = 'f' then some '\x0c'
  else if c = 'n' then some '\n'
  else if c = 'r' then some '\r'
  else if c = 't' then some '\t'
  else none

/-- The number given by four hexadecimal digits.  The text must hold four more bytes before the
digits are looked at. -/
def fourDigits : Reader Nat := fun s =>
  if (s.take 4).foldl (fun size c => size + c.utf8Size) 0 < 4 then .error .endInText
  else
    match s with
    | a :: b :: c :: d :: rest =>
      match hexDigit? a, hexDigit? b, hexDigit? c, hexDigit? d with
      | some a, some b, some c, some d => .ok (((16 * a + b) * 16 + c) * 16 + d, rest)
      | _, _, _, _ => .error .invalidEscape
    | _ => .error .invalidEscape

/-- One character of the escape that must follow the first half of a surrogate pair. -/
def pairSign (c : Char) : Reader Unit := fun s =>
  match s with
  | [] => .error .endInText
  | d :: rest => if d = c then .ok ((), rest) else .error .missingSurrogate

/-- The character of a `\u` escape, after the `u`.  A code unit of a surrogate pair must be the
first half, and the second half must follow. -/
def unicodeEscape : Reader Char := do
  let n ← fourDigits
  if 0xdc00 ≤ n ∧ n ≤ 0xdfff then fail .loneSurrogate
  else if n < 0xd800 ∨ 0xdbff < n then pure (Char.ofNat n)
  else
    pairSign '\\'
    pairSign 'u'
    let m ← fourDigits
    if m < 0xdc00 ∨ 0xdfff < m then fail .loneSurrogate
    else pure (Char.ofNat ((n - 0xd800) * 0x400 + (m - 0xdc00) + 0x10000))

/-- The character of an escape, after the backslash. -/
def escaped : Reader Char := fun s =>
  match s with
  | [] => .error .endInText
  | c :: rest =>
    if c = 'u' then unicodeEscape rest
    else
      match shortEscape? c with
      | some d => .ok (d, rest)
      | none => .error .invalidEscape

/-- Follows an escape without asking what it means. -/
def passEscape : Reader Unit := fun s =>
  match s with
  | [] => .error .endInText
  | c :: rest =>
    if c = 'u' then (fun _ => ()) <$> fourDigits <| rest
    else if (shortEscape? c).isSome then .ok ((), rest)
    else .error .invalidEscape

/-! ## 2. Reading -/

/-- One character of a text, or its end. -/
def textStep (read : List Char) : Reader (List Char ⊕ String) := fun s =>
  match s with
  | [] => .error .endInText
  | c :: rest =>
    if c = '"' then .ok (.inr (String.ofList read.reverse), rest)
    else if c = '\\' then
      match escaped rest with
      | .error e => .error e
      | .ok (d, rest) => .ok (.inl (d :: read), rest)
    else if c.toNat < 0x20 then .error .controlCharacter
    else .ok (.inl (c :: read), rest)

/-- The rest of a text after its opening quotation mark. -/
def text : Reader String := loop textStep []

/-- One character of a text that is ignored, or its end. -/
def passTextStep (_ : Unit) : Reader (Unit ⊕ Unit) := fun s =>
  match s with
  | [] => .error .endInText
  | c :: rest =>
    if c = '"' then .ok (.inr (), rest)
    else if c = '\\' then
      match passEscape rest with
      | .error e => .error e
      | .ok ((), rest) => .ok (.inl (), rest)
    else if c.toNat < 0x20 then .error .controlCharacter
    else .ok (.inl (), rest)

/-- Follows a text to its closing quotation mark. -/
def passText : Reader Unit := loop passTextStep ()

/-! ## 3. Writing -/

/-- One character of a written text. -/
def escape (c : Char) : List Char :=
  if c = '"' then ['\\', '"']
  else if c = '\\' then ['\\', '\\']
  else if c = '\x08' then ['\\', 'b']
  else if c = '\x0c' then ['\\', 'f']
  else if c = '\n' then ['\\', 'n']
  else if c = '\r' then ['\\', 'r']
  else if c = '\t' then ['\\', 't']
  else if c.toNat < 0x20 then
    ['\\', 'u', '0', '0', Nat.digitChar (c.toNat / 16), Nat.digitChar (c.toNat % 16)]
  else [c]

/-- A text between quotation marks. -/
def writeText (s : String) : List Char :=
  '"' :: (s.toList.flatMap escape ++ ['"'])

end SoundEngine.Json
