import SoundEngine.Json.Value

/-!
# Decoders

A decoder says how a type is read from a document, in two ways that agree: from the text itself,
value by value as it comes, so that the first thing that is wrong is what is reported; and from a
value that has been read completely before.

A record is read from an object, whose members may come in any order under any of their names,
or from a list, whose items are the fields in their order.  Fields that do not occur keep the
value they have in a blank record.
-/

namespace SoundEngine.Json

open Reader

/-- A way to read a type.  `read` is given what the value begins with, and reads the rest. -/
structure Decoder (β : Type) where
  read : Head → Reader β
  take : Value → Except Error β

namespace Decoder

variable {β γ : Type}

/-- Reads one value. -/
def reader (d : Decoder β) : Reader β := do d.read (← head)

/-- Applies a function to what is read. -/
def map (f : β → γ) (d : Decoder β) : Decoder γ :=
  ⟨fun h => f <$> d.read h, fun v => f <$> d.take v⟩

/-! ## 1. Scalars -/

/-- A type whose values are scalars. -/
def scalar (f : Head → Except Error β) : Decoder β :=
  ⟨fun h => ofResult (f h), fun v => f v.head⟩

/-- A text. -/
def text : Decoder String :=
  scalar fun
    | .text s => .ok s
    | h => .error (.wrongType h "a string")

/-- A boolean. -/
def flag : Decoder Bool :=
  scalar fun
    | .flag b => .ok b
    | h => .error (.wrongType h "a boolean")

/-- A 32-bit number: integers are rounded once, other numbers come through the 64-bit format. -/
def single : Decoder Single :=
  scalar fun
    | .number (.integer i) => .ok (Binary.ofInt i)
    | .number (.real x) => .ok (x.convert .single)
    | h => .error (.wrongType h "f32")

/-- A natural number of 64 bits. -/
def natural : Decoder Nat :=
  scalar fun
    | .number (.integer i) =>
      if i < 0 then .error (.wrongValue (.number (.integer i)) "u64") else .ok i.toNat
    | h => .error (.wrongType h "u64")

/-- Nothing but `null`. -/
def unit : Decoder Unit :=
  scalar fun
    | .null => .ok ()
    | h => .error (.wrongType h "unit")

/-- A value that may be `null`. -/
def optional (d : Decoder β) : Decoder (Option β) where
  read
    | .null => pure none
    | h => some <$> d.read h
  take
    | .null => .ok none
    | v => some <$> d.take v

end Decoder

/-! ## 2. Records -/

/-- A field of a record: its name, the other names it may be given, and how its value changes the
record. -/
structure Field (α : Type) where
  name : String
  aliases : List String
  update : Decoder (α → α)

/-- The key names the field. -/
def Field.answers {α : Type} (f : Field α) (key : String) : Bool :=
  f.name == key || f.aliases.contains key

/-- A field with its decoder and its setter. -/
def Field.of {α β : Type} (name : String) (aliases : List String) (d : Decoder β)
    (set : α → β → α) : Field α :=
  ⟨name, aliases, d.map fun b a => set a b⟩

/-- How a record is read: its name in messages, its fields in their order, and the record with no
field given. -/
structure RecordShape (α : Type) where
  title : String
  fields : List (Field α)
  blank : α

namespace RecordShape

variable {α : Type}

/-- The field that a key names. -/
def field? (shape : RecordShape α) (key : String) : Option (Field α) :=
  shape.fields.find? (·.answers key)

/-- The record while it is read: the names of the fields that have come, and the record so far. -/
structure Partial (α : Type) where
  given : List String
  record : α

/-- A field may come only once. -/
def Partial.check (p : Partial α) (f : Field α) : Except Error Unit :=
  if p.given.contains f.name then .error (.duplicateField f.name) else .ok ()

/-- The record after a field has come. -/
def Partial.put (p : Partial α) (f : Field α) (update : α → α) : Partial α :=
  ⟨f.name :: p.given, update p.record⟩

/-! ### From a text -/

/-- The items of a list, each for the next field.  The list may end early, but not late. -/
def readItems : List (Field α) → Bool → α → Reader α
  | [], _, a => do closeList; pure a
  | f :: fs, first, a => do
    if ← nextItem first then
      let update ← f.update.reader
      readItems fs false (update a)
    else pure a

/-- One member of an object, or its end. -/
def memberStep (shape : RecordShape α) (st : Bool × Partial α) :
    Reader ((Bool × Partial α) ⊕ α) := do
  if ← nextMember st.1 then
    let key ← Json.text
    match shape.field? key with
    | none =>
      colon
      skip
      pure (.inl (false, st.2))
    | some f =>
      ofResult (st.2.check f)
      colon
      let update ← f.update.reader
      pure (.inl (false, st.2.put f update))
  else pure (.inr st.2.record)

/-- The members of an object. -/
def readMembers (shape : RecordShape α) : Reader α :=
  loop shape.memberStep (true, ⟨[], shape.blank⟩)

/-! ### From a value -/

/-- The items of a list, each for the next field. -/
def takeItems (count fieldCount : Nat) : List (Field α) → List Value → α → Except Error α
  | _, [], a => .ok a
  | [], _ :: _, _ => .error (.wrongLength count fieldCount)
  | f :: fs, v :: vs, a => do
    let update ← f.update.take v
    takeItems count fieldCount fs vs (update a)

/-- One member of an object. -/
def takeMember (shape : RecordShape α) (p : Partial α) (member : String × Value) :
    Except Error (Partial α) :=
  match shape.field? member.1 with
  | none => .ok p
  | some f => do
    p.check f
    let update ← f.update.take member.2
    pure (p.put f update)

/-- The members of an object. -/
def takeMembers (shape : RecordShape α) (members : List (String × Value)) : Except Error α :=
  Partial.record <$> members.foldlM shape.takeMember ⟨[], shape.blank⟩

/-- The record's decoder. -/
def decoder (shape : RecordShape α) : Decoder α where
  read
    | .list => readItems shape.fields true shape.blank
    | .object => shape.readMembers
    | h => fail (.wrongType h ("struct " ++ shape.title))
  take
    | .list vs => takeItems vs.length shape.fields.length shape.fields vs shape.blank
    | .object ms => shape.takeMembers ms
    | v => .error (.wrongType v.head ("struct " ++ shape.title))

end RecordShape

/-! ## 3. Names -/

/-- One of several names, each with its meaning. -/
def Decoder.variant {β : Type} (names : List (String × β)) : Decoder β :=
  .scalar fun
    | .text s =>
      match names.lookup s with
      | some b => .ok b
      | none => .error (.unknownVariant s (names.map Prod.fst))
    | h => .error (.wrongType h "variant identifier")

/-- The key of an object with one member, which is a name.  An empty object lacks a value. -/
def namedKey {β : Type} (names : List (String × β)) : Reader β := fun s =>
  match trimmed s with
  | [] => .error .endInObject
  | c :: rest =>
    if c = '"' then (Decoder.variant names).reader (c :: rest)
    else if c = '\x7d' then .error .expectedValue
    else .error .keyNotText

/-- The end of an object with one member. -/
def closeSingle : Reader Unit := fun s =>
  match trimmed s with
  | [] => .error .endInObject
  | c :: rest => if c = '\x7d' then .ok ((), rest) else .error .expectedValue

/-- A name as the only key of an object, without a value. -/
def keyedName {β : Type} (names : List (String × β)) : Reader β := do
  let b ← namedKey names
  colon
  Decoder.unit.reader
  closeSingle
  pure b

/-- A value of an enumeration: a name, or an object whose only key is the name. -/
def enumeration {β : Type} (names : List (String × β)) : Reader β := fun s =>
  match trimmed s with
  | [] => .error .endInValue
  | c :: rest =>
    if c = '"' then (Decoder.variant names).reader (c :: rest)
    else if c = '\x7b' then keyedName names rest
    else .error .expectedValue

end SoundEngine.Json
