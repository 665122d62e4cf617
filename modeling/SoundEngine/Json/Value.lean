import SoundEngine.Json.Numeral
import SoundEngine.Json.Text

/-!
# Values

A value can be read in three ways.  `head` reads what a value begins with, and leaves the rest of
a list or an object to the reader that asked.  `value` reads a value completely and keeps it; it
refuses nesting beyond a given depth.  `skip` only follows a value to its end: it has no limit of
depth, takes numbers of any size, and is the way in which unknown members are passed over.
-/

namespace SoundEngine.Json

open Reader

/-- A value that has been read completely.  Members are kept in their order. -/
inductive Value where
  | null
  | flag (value : Bool)
  | number (value : Number)
  | text (value : String)
  | list (items : List Value)
  | object (members : List (String × Value))

instance : Inhabited Value := ⟨.null⟩

/-- What the value begins with. -/
def Value.head : Value → Head
  | .null => .null
  | .flag b => .flag b
  | .number n => .number n
  | .text s => .text s
  | .list _ => .list
  | .object _ => .object

/-! ## 1. The beginning of a value -/

/-- Reads a scalar, or the opening bracket of a list or an object. -/
def head : Reader Head := fun s =>
  match trimmed s with
  | [] => .error .endInValue
  | c :: rest =>
    if c = '"' then (Head.text <$> text) rest
    else if c = '[' then .ok (.list, rest)
    else if c = '\x7b' then .ok (.object, rest)
    else if c = '-' then (Head.number <$> numeral true) rest
    else if c.isDigit then (Head.number <$> numeral false) (c :: rest)
    else if c = 'n' then ((fun _ => Head.null) <$> word "ull".toList) rest
    else if c = 't' then ((fun _ => Head.flag true) <$> word "rue".toList) rest
    else if c = 'f' then ((fun _ => Head.flag false) <$> word "alse".toList) rest
    else .error .expectedValue

/-! ## 2. Complete values -/

/-- What has been read of a list: whether nothing has, and the items, the last one first. -/
abbrev ItemsRead := Bool × List Value

/-- One item of a list, or its end. -/
def itemStep (item : Reader Value) (before : ItemsRead) : Reader (ItemsRead ⊕ List Value) := do
  if ← nextItem before.1 then
    let v ← item
    pure (.inl (false, v :: before.2))
  else pure (.inr before.2.reverse)

/-- The items of a list from the beginning (`first`), or after the first one. -/
def items (first : Bool) (item : Reader Value) : Reader (List Value) :=
  loop (itemStep item) (first, [])

/-- One member of an object, or its end. -/
def memberStep (item : Reader Value) (before : List (String × Value)) :
    Reader (List (String × Value) ⊕ List (String × Value)) := do
  if ← nextMember before.isEmpty then
    let key ← text
    colon
    let v ← item
    pure (.inl ((key, v) :: before))
  else pure (.inr before.reverse)

/-- A value whose lists and objects are nested at most `depth` deep. -/
def value : Nat → Reader Value
  | 0 => do
    match ← head with
    | .null => pure .null
    | .flag b => pure (.flag b)
    | .number n => pure (.number n)
    | .text s => pure (.text s)
    | .list => fail .tooDeep
    | .object => fail .tooDeep
  | depth + 1 => do
    match ← head with
    | .null => pure .null
    | .flag b => pure (.flag b)
    | .number n => pure (.number n)
    | .text s => pure (.text s)
    | .list => Value.list <$> items true (value depth)
    | .object => Value.object <$> loop (memberStep (value depth)) []

/-- The greatest nesting of a document that is kept. -/
def depthLimit : Nat := 127

/-- The document as a value. -/
def Value.ofText (s : String) : Except Error Value := Reader.run (value depthLimit) s

/-! ## 3. Values that are ignored -/

/-- One item of an ignored list, or its end. -/
def passItemStep (pass : Reader Unit) (first : Bool) : Reader (Bool ⊕ Unit) := fun s =>
  match trimmed s with
  | [] => .error .endInList
  | c :: rest =>
    if c = ']' then .ok (.inr (), rest)
    else if first then ((fun _ => .inl false) <$> pass) (c :: rest)
    else if c = ',' then ((fun _ => .inl false) <$> pass) rest
    else .error .expectedItemEnd

/-- The opening quotation mark of an ignored key. -/
def passKeySign : Reader Unit := fun s =>
  match trimmed s with
  | [] => .error .endInObject
  | c :: rest => if c = '"' then .ok ((), rest) else .error .keyNotText

/-- An ignored member. -/
def passMember (pass : Reader Unit) : Reader Unit := do
  passKeySign
  passText
  colon
  pass

/-- One member of an ignored object, or its end. -/
def passMemberStep (pass : Reader Unit) (first : Bool) : Reader (Bool ⊕ Unit) := fun s =>
  match trimmed s with
  | [] => .error .endInObject
  | c :: rest =>
    if c = '\x7d' then .ok (.inr (), rest)
    else if first then ((fun _ => .inl false) <$> passMember pass) (c :: rest)
    else if c = ',' then ((fun _ => .inl false) <$> passMember pass) rest
    else .error .expectedMemberEnd

/-- Follows a value with at most `depth` nested lists and objects. -/
def passWithin : Nat → Reader Unit
  | 0 => fail .endInValue
  | depth + 1 => fun s =>
    match trimmed s with
    | [] => .error .endInValue
    | c :: rest =>
      if c = '"' then passText rest
      else if c = '[' then loop (passItemStep (passWithin depth)) true rest
      else if c = '\x7b' then loop (passMemberStep (passWithin depth)) true rest
      else if c = '-' then passNumeral rest
      else if c.isDigit then passNumeral (c :: rest)
      else if c = 'n' then word "ull".toList rest
      else if c = 't' then word "rue".toList rest
      else if c = 'f' then word "alse".toList rest
      else .error .expectedValue

/-- Follows a value to its end.  A value cannot be nested deeper than its text is long. -/
def skip : Reader Unit := fun s => passWithin (s.length + 1) s

end SoundEngine.Json
