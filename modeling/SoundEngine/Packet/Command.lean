import SoundEngine.Packet.Request

/-!
# Commands

A command says in the member `type` what is to be done; the other members are those of the
request.  As `type` may stand anywhere, the other members are read completely and kept, and the
request is taken from them once the object is complete.  A list has the type as its first item.
-/

namespace SoundEngine

/-- What the engine is told to do. -/
inductive Command where
  | playEffect (request : EffectRequest)
  | playMusic (request : MusicRequest)
  | stopMusic
  | stopAll
deriving DecidableEq

namespace Command

open Json Reader

/-- The kinds of command. -/
inductive Kind where
  | playEffect
  | playMusic
  | stopMusic
  | stopAll
deriving DecidableEq

/-- The written form of each kind. -/
def kinds : List (String × Kind) :=
  [("play_sound", .playEffect), ("play_music", .playMusic), ("stop_music", .stopMusic),
    ("stop_all", .stopAll)]

/-- A kind by its name. -/
def kindDecoder : Decoder Kind := .variant kinds

/-- The member that holds the kind. -/
def kindKey : String := "type"

/-- The greatest nesting of a value inside a command. -/
def innerDepth : Nat := depthLimit - 1

/-! ## 1. Reading -/

/-- A command without a request takes any members, but no further items. -/
def takeNothing : Value → Except Error Unit
  | .list (v :: vs) => .error (.wrongLength (v :: vs).length 0)
  | _ => .ok ()

/-- The command of a kind, its request taken from what else was read. -/
def take : Kind → Value → Except Error Command
  | .playEffect, v => .playEffect <$> EffectRequest.shape.decoder.take v
  | .playMusic, v => .playMusic <$> MusicRequest.shape.decoder.take v
  | .stopMusic, v => (fun _ => .stopMusic) <$> takeNothing v
  | .stopAll, v => (fun _ => .stopAll) <$> takeNothing v

/-- A command while its members are read: its kind if it has come, and the other members, the
last one first. -/
structure Gathered where
  kind : Option Kind := none
  members : List (String × Value) := []

/-- The command of all members. -/
def Gathered.command (g : Gathered) : Except Error Command :=
  match g.kind with
  | none => .error (.missingField kindKey)
  | some kind => take kind (.object g.members.reverse)

/-- One member of a command, or its end. -/
def memberStep (st : Bool × Gathered) : Reader ((Bool × Gathered) ⊕ Command) := do
  if ← nextMember st.1 then
    let key ← Json.text
    if key = kindKey then
      if st.2.kind.isSome then fail (.duplicateField kindKey)
      else
        colon
        let kind ← kindDecoder.reader
        pure (.inl (false, { st.2 with kind := some kind }))
    else
      colon
      let v ← value innerDepth
      pure (.inl (false, { st.2 with members := (key, v) :: st.2.members }))
  else .inr <$> ofResult st.2.command

/-- The items of a command: its kind, then those of the request. -/
def readItems : Reader Command := do
  if ← nextItem true then
    let kind ← kindDecoder.reader
    let vs ← items false (value innerDepth)
    ofResult (take kind (.list vs))
  else fail (.missingField kindKey)

/-- Reads a command. -/
def reader : Reader Command := do
  match ← head with
  | .list => readItems
  | .object => loop memberStep (true, {})
  | h => fail (.wrongType h "internally tagged enum AudioCommand")

/-- Reads a document. -/
def ofText (s : String) : Except Error Command := Reader.run reader s

/-! ## 2. Writing -/

/-- The written members, the kind first. -/
def members : Command → List (List Char)
  | .playEffect r => writeMember kindKey (writeText "play_sound") :: r.members
  | .playMusic r => writeMember kindKey (writeText "play_music") :: r.members
  | .stopMusic => [writeMember kindKey (writeText "stop_music")]
  | .stopAll => [writeMember kindKey (writeText "stop_all")]

/-- The command as a document. -/
def toText (c : Command) : String := String.ofList (writeObject c.members)

end Command

end SoundEngine
