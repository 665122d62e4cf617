import SoundEngine.Json.Decoder
import SoundEngine.Json.Writer
import SoundEngine.Mix.Level

/-!
# The three buses

Everything that is heard passes one of three buses: effects, music and ambience.  `PerBus` holds
one thing for each of them, so that a statement about all buses is a statement about every
`BusKind`.
-/

namespace SoundEngine

/-- A bus. -/
inductive BusKind where
  | effects
  | music
  | ambience
deriving DecidableEq

namespace BusKind

/-- The buses in the order in which they are made. -/
def all : List BusKind := [.effects, .music, .ambience]

/-- The name of a bus. -/
def name : BusKind → String
  | .effects => "effects"
  | .music => "music"
  | .ambience => "ambience"

/-- Each name with its bus. -/
def names : List (String × BusKind) := all.map fun k => (k.name, k)

/-- Reads a document. -/
def ofText (s : String) : Except Json.Error BusKind := Json.Reader.run (Json.enumeration names) s

/-- The bus as a document. -/
def toText (k : BusKind) : String := String.ofList (Json.writeText k.name)

end BusKind

/-- One thing for each bus. -/
structure PerBus (α : Type) where
  effects : α
  music : α
  ambience : α
deriving DecidableEq

namespace PerBus

variable {α β : Type}

/-- What belongs to a bus. -/
def get (p : PerBus α) : BusKind → α
  | .effects => p.effects
  | .music => p.music
  | .ambience => p.ambience

/-- Replaces what belongs to a bus. -/
def set (p : PerBus α) (kind : BusKind) (a : α) : PerBus α :=
  match kind with
  | .effects => { p with effects := a }
  | .music => { p with music := a }
  | .ambience => { p with ambience := a }

/-- One thing for each bus, by a function on buses. -/
def of (f : BusKind → α) : PerBus α := ⟨f .effects, f .music, f .ambience⟩

@[simp] theorem get_of (f : BusKind → α) (kind : BusKind) : (of f).get kind = f kind := by
  cases kind <;> rfl

@[simp] theorem get_set_self (p : PerBus α) (kind : BusKind) (a : α) :
    (p.set kind a).get kind = a := by
  cases kind <;> rfl

theorem get_set_of_ne (p : PerBus α) {kind other : BusKind} (a : α) (h : other ≠ kind) :
    (p.set kind a).get other = p.get other := by
  cases kind <;> cases other <;> first | rfl | exact absurd rfl h

end PerBus

/-- A gain for each bus, as it was given. -/
abbrev Gains := PerBus Single

namespace Gains

open Json

/-- Effects and ambience at full level, music at a fifth. -/
def standard : Gains := ⟨Binary.ofNat 1, Binary.ofRatio false 1 5, Binary.ofNat 1⟩

/-- The gain of a bus, in its range. -/
def level (g : Gains) (kind : BusKind) : Single := Level.gain (g.get kind)

/-- How gains are read. -/
def shape : RecordShape Gains where
  title := "BusGains"
  fields := BusKind.all.map fun kind => .of kind.name [] .single fun g x => g.set kind x
  blank := standard

/-- Reads a document. -/
def ofText (s : String) : Except Error Gains := Reader.run shape.decoder.reader s

/-- The gains as a written value. -/
def write (g : Gains) : List Char :=
  writeObject (BusKind.all.map fun kind => writeMember kind.name (writeSingle (g.get kind)))

/-- The gains as a document. -/
def toText (g : Gains) : String := String.ofList g.write

end Gains

end SoundEngine
