import SoundEngine.Url.Basic

/-!
# Origins

Two resources have the same origin when they come from the same server.  An address without a
server has a NAMELESS origin, and all nameless origins count as the same.  An address of the
scheme `blob` has the origin of the address that is its path.

A resource is CROSS-ORIGIN for a page when it provably comes from elsewhere: the page is known, the
address can be read, and their origins differ.
-/

namespace SoundEngine

/-- Where a resource comes from. -/
inductive Origin where
  | nameless
  | server (server : Server)
deriving DecidableEq

namespace Url

/-- The origin of an address, looking through at most `depth` addresses inside each other. -/
def originWithin : Nat → Url → Origin
  | _, .served s => .server s
  | _, .file => .nameless
  | _, .layered _ => .nameless
  | 0, .flat _ _ => .nameless
  | depth + 1, .flat scheme path =>
    if scheme = "blob" then
      match ofText? none path with
      | none => .nameless
      | some inner => originWithin depth inner
    else .nameless

/-- The origin of an address.  An address inside another one is shorter than it. -/
def origin : Url → Origin
  | .flat scheme path => originWithin (path.length + 1) (.flat scheme path)
  | u => originWithin 0 u

/-- The address is known to have another origin than the page.  It is read relative to the page. -/
def isCrossOrigin (page : Option Url) (address : String) : Bool :=
  match page with
  | none => false
  | some p =>
    match ofText? (some p) address with
    | none => false
    | some target => target.origin != p.origin

end Url

end SoundEngine
