import SoundEngine.Playback.Host

/-!
# The supply of sources

Every attempt to build a source uses up a number, so that no number is ever given to two sources.
Numbers are natural numbers, and do not run out.  An engine that counts in words of 64 bits has the same
numbers for fewer than `2 ^ 64 - 1` attempts: until then neither counter reaches `2 ^ 64`.
A source of another origin is fetched without credentials, which keeps it usable in a graph.

Starting and halting a source never fail: a refusal becomes an outcome or a record.
-/

namespace SoundEngine

variable {H : Host}

/-- The next number, and how many sources have been built. -/
structure Supply where
  next : Nat := 1
  created : Nat := 0
deriving DecidableEq

/-- How media at an address is fetched for a page. -/
def FetchMode.of (page : Option Url) (address : String) : FetchMode :=
  if Url.isCrossOrigin page address then .anonymous else .standard

namespace Supply

/-- The number of the next source. -/
def nextId (s : Supply) : SourceId := ⟨s.next⟩

/-- The supply after a failed attempt. -/
def spend (s : Supply) : Supply := { s with next := s.next + 1 }

/-- The supply after a successful attempt. -/
def advance (s : Supply) : Supply := ⟨s.next + 1, s.created + 1⟩

/-- Builds a source for an address. -/
def create (s : Supply) (page : Option Url) (address : String) :
    HostM H (Except PlaybackFailure SourceId × Supply) := do
  let id := s.nextId
  let mode := FetchMode.of page address
  match ← ask (.createSource id address mode) with
  | .error failure => pure (.error failure, s.spend)
  | .ok () =>
    ask (.setPreload id true)
    log (.created id address mode)
    pure (.ok id, s.advance)

end Supply

namespace SourceId

/-- Asks a source to play. -/
def start (id : SourceId) : HostM H Start := do
  match ← ask (.play id) with
  | .ok () => pure .started
  | .error failure =>
    log (.notStarted (← ask (.sourceAddress id)) failure)
    pure (.notStarted failure)

/-- Pauses a source and, if that succeeds, takes it back to its beginning. -/
def rewind (id : SourceId) : HostM H (Except PlaybackFailure Unit) := do
  match ← ask (.pause id) with
  | .error failure => pure (.error failure)
  | .ok () => ask (.seek id .zero)

/-- Pauses and rewinds a source, whatever comes of it. -/
def halt (id : SourceId) : HostM H Unit := do
  match ← id.rewind with
  | .ok () => pure ()
  | .error failure => log (.notHalted (← ask (.sourceAddress id)) failure)

end SourceId

end SoundEngine
