import SoundEngine.Playback.Engine

/-!
# Runs

A run is a row of steps.  In a step the engine performs one operation, or it rests while the host
changes and reports events.  What an operation answers is kept, so that a statement about a run
can speak of its answers, its chronicle and its last state.
-/

namespace SoundEngine

variable {H : Host}

/-- What can be asked of an engine. -/
inductive Operation where
  | playEffect (request : EffectRequest)
  | playMusic (request : MusicRequest)
  | stopMusic
  | stopAll (order : VisitOrder)
  | drain
  | setGain (bus : BusKind) (gain : Single)
  | unlock (patience : Nat)
  | isUnlocked

/-- What an operation answers. -/
inductive Answer where
  | effect (outcome : EffectOutcome)
  | music (outcome : MusicOutcome)
  | done
  | drained (count : Nat)
  | gain (gain : Single)
  | unlocked (result : Option Bool)
deriving DecidableEq

/-- The operation that a command stands for. -/
def Command.operation (order : VisitOrder) : Command → Operation
  | .playEffect request => .playEffect request
  | .playMusic request => .playMusic request
  | .stopMusic => .stopMusic
  | .stopAll => .stopAll order

namespace Engine

/-- Performs an operation. -/
def perform (e : Engine) : Operation → HostM H (Answer × Engine)
  | .playEffect request => do
    let (outcome, e) ← e.playEffect request
    pure (.effect outcome, e)
  | .playMusic request => do
    let (outcome, e) ← e.playMusic request
    pure (.music outcome, e)
  | .stopMusic => do pure (.done, ← e.stopMusic)
  | .stopAll order => do pure (.done, ← e.stopAll order)
  | .drain => do
    let (count, e) ← e.drain
    pure (.drained count, e)
  | .setGain bus gain => do
    let e ← e.setGain bus gain
    pure (.gain (e.mixer.gain bus), e)
  | .unlock patience => do pure (.unlocked (← e.unlock patience), e)
  | .isUnlocked => do pure (.unlocked (some (← e.isUnlocked)), e)

/-- To obey a command is to perform the operation that it stands for. -/
theorem obey_eq_perform (e : Engine) (order : VisitOrder) (c : Command) :
    (e.obey order c : HostM H Engine) = Prod.snd <$> e.perform (c.operation order) := by
  cases c <;> rfl

end Engine

/-- A step of a run. -/
inductive Step (H : Host) where
  | perform (operation : Operation)
  | meanwhile (change : H.State → H.State) (notices : List Notice)

/-- The host changes and reports events. -/
def meanwhile (change : H.State → H.State) (notices : List Notice) : HostM H Unit :=
  modify fun s => { s with host := change s.host }.deliver notices

namespace Engine

/-- One step, with its answer if it is an operation. -/
def step (e : Engine) : Step H → HostM H (Option Answer × Engine)
  | .perform operation => do
    let (answer, e) ← e.perform operation
    pure (some answer, e)
  | .meanwhile change notices => do
    SoundEngine.meanwhile change notices
    pure (none, e)

/-- All steps, with their answers. -/
def run (e : Engine) : List (Step H) → HostM H (List (Option Answer) × Engine)
  | [] => pure ([], e)
  | s :: rest => do
    let (answer, e) ← e.step s
    let (answers, e) ← e.run rest
    pure (answer :: answers, e)

end Engine

end SoundEngine
