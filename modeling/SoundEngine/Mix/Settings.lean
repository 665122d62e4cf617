import SoundEngine.Address
import SoundEngine.Mix.Bus

/-!
# Settings

The settings of an engine: the base for relative names, and the gain of each bus at the start.
They are kept as they were given.  A gain that is set here is brought into its range, but
not-a-number stays what it is until the gain is used.
-/

namespace SoundEngine

/-- What an engine is built with. -/
structure Settings where
  base : String
  gains : Gains
deriving DecidableEq

namespace Settings

open Json

/-- The settings when nothing is given. -/
def standard : Settings := ⟨Address.standardBase, Gains.standard⟩

/-- The base that is used. -/
def effectiveBase (s : Settings) : String := Address.baseOrStandard s.base

/-- Sets the base. -/
def withBase (s : Settings) (base : String) : Settings := { s with base }

/-- Sets the gain of a bus, brought into `[0, 1]`; not-a-number is kept. -/
def withGain (s : Settings) (kind : BusKind) (gain : Single) : Settings :=
  { s with gains := s.gains.set kind (gain.clamp (Level.whole 0) (Level.whole 1)) }

/-- How settings are read. -/
def shape : RecordShape Settings where
  title := "EngineConfig"
  fields := [
    .of "sound_base_url" [] .text fun s base => { s with base },
    .of "bus_defaults" [] Gains.shape.decoder fun s gains => { s with gains }]
  blank := standard

/-- Reads a document. -/
def ofText (s : String) : Except Error Settings := Reader.run shape.decoder.reader s

/-- The message about a document that holds no settings. -/
def refusal (e : Error) : String := "Invalid engine configuration: " ++ e.message

/-- The settings as a document. -/
def toText (s : Settings) : String :=
  String.ofList (writeObject [writeMember "sound_base_url" (writeText s.base),
    writeMember "bus_defaults" s.gains.write])

end Settings

end SoundEngine
