import SoundEngine.Playback.Run
import SoundEngine.Proofs.Chronicle
import SoundEngine.Simulation.BareSource
import SoundEngine.Simulation.Stage
import SoundEngine.Proofs.Conduct
import SoundEngine.Proofs.History
import SoundEngine.Proofs.Calls
import SoundEngine.Proofs.MusicSlot
import SoundEngine.Proofs.Tracking
import SoundEngine.Proofs.Dossier
import SoundEngine.Proofs.Roster
import SoundEngine.Proofs.SourceProtocol
import SoundEngine.Proofs.OneTrack
import SoundEngine.Proofs.Levels
import SoundEngine.Proofs.Numbering
import SoundEngine.Proofs.Buses
import SoundEngine.Proofs.Ranges
import SoundEngine.Proofs.Twins
import SoundEngine.Proofs.StageCalls
import SoundEngine.Proofs.Delivery
import SoundEngine.Proofs.Standstill
import SoundEngine.Proofs.FetchModes
import SoundEngine.Proofs.Packets
import SoundEngine.Proofs.RoundTrip
import SoundEngine.Proofs.Sayings
import SoundEngine.Proofs.Tolerance
import SoundEngine.Proofs.Failures
import SoundEngine.Proofs.Likeness
import SoundEngine.Proofs.LevelBlind
import SoundEngine.Proofs.Lookalikes
import SoundEngine.Proofs.BySource
import SoundEngine.Proofs.Commuting
import SoundEngine.Proofs.Attempts
import SoundEngine.Proofs.Shortest
import SoundEngine.Proofs.Numerals
import SoundEngine.Proofs.Refusals
import SoundEngine.Proofs.Reloading
import SoundEngine.Proofs.Addresses
import SoundEngine.Proofs.RelativeNames
import SoundEngine.Proofs.Positions
import SoundEngine.Proofs.Nearest
import SoundEngine.Proofs.Scaling
import SoundEngine.Proofs.Middles
import SoundEngine.Proofs.Fewest
import SoundEngine.Proofs.Significands
import SoundEngine.Proofs.Survival
import SoundEngine.Proofs.Schemes
import SoundEngine.Proofs.Percentages
import SoundEngine.Proofs.Unlocking
