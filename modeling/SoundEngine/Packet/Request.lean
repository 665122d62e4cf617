import SoundEngine.Json.Decoder
import SoundEngine.Json.Writer
import SoundEngine.Mix.Level

/-!
# Requests

A request for an effect names a sound and may give volume, pitch and pan in percent.  A request
for music names a track and may say whether it loops.  What is not given is kept apart from any
value it could be given, so that a request is written as it was read.
-/

namespace SoundEngine

/-- A request to play a sound once. -/
structure EffectRequest where
  name : String := ""
  volume : Option Single := none
  pitch : Option Single := none
  pan : Option Single := none
deriving DecidableEq

/-- A request for background music. -/
structure MusicRequest where
  name : String := ""
  looping : Option Bool := none
deriving DecidableEq

namespace EffectRequest

open Json

/-- The volume as a factor. -/
def volumeFactor (r : EffectRequest) : Single := Level.volumeFactor r.volume

/-- The playback rate. -/
def rateFactor (r : EffectRequest) : Single := Level.rateFactor r.pitch

/-- The pan as a factor. -/
def panFactor (r : EffectRequest) : Single := Level.panFactor r.pan

/-- How a request for an effect is read. -/
def shape : RecordShape EffectRequest where
  title := "SoundRequest"
  fields := [
    .of "name" ["sound"] .text fun r name => { r with name },
    .of "volume" [] (.optional .single) fun r volume => { r with volume },
    .of "pitch" [] (.optional .single) fun r pitch => { r with pitch },
    .of "pan" [] (.optional .single) fun r pan => { r with pan }]
  blank := {}

/-- Reads a document. -/
def ofText (s : String) : Except Error EffectRequest := Reader.run shape.decoder.reader s

/-- The written members. -/
def members (r : EffectRequest) : List (List Char) :=
  writeMember "name" (writeText r.name) ::
    (writeOptional "volume" writeSingle r.volume ++ writeOptional "pitch" writeSingle r.pitch ++
      writeOptional "pan" writeSingle r.pan)

/-- The request as a document. -/
def toText (r : EffectRequest) : String := String.ofList (writeObject r.members)

end EffectRequest

namespace MusicRequest

open Json

/-- Music loops unless the request says otherwise. -/
def loops (r : MusicRequest) : Bool := r.looping.getD true

/-- How a request for music is read. -/
def shape : RecordShape MusicRequest where
  title := "MusicRequest"
  fields := [
    .of "name" ["music"] .text fun r name => { r with name },
    .of "looping" [] (.optional .flag) fun r looping => { r with looping }]
  blank := {}

/-- Reads a document. -/
def ofText (s : String) : Except Error MusicRequest := Reader.run shape.decoder.reader s

/-- The written members. -/
def members (r : MusicRequest) : List (List Char) :=
  writeMember "name" (writeText r.name) :: writeOptional "looping" writeFlag r.looping

/-- The request as a document. -/
def toText (r : MusicRequest) : String := String.ofList (writeObject r.members)

end MusicRequest

end SoundEngine
