import SoundEngine.Url.Host

/-!
# Addresses

An address is read for one purpose: to tell where a resource comes from.  So of the many parts of
an address only those are kept that decide its origin, or the origin of an address that is
relative to it.  These are the server, for the schemes that have one; for a scheme whose path is
a free text, that text; and for all others no more than that they have a path with slashes.

Path, query and fragment are not looked at, since nothing in them makes an address invalid.
-/

namespace SoundEngine

open SoundEngine.Url

/-- A server, by the scheme it is asked with, its host and its port. -/
structure Server where
  scheme : String
  host : Url.Host
  port : Nat
deriving DecidableEq

/-- What is kept of an address. -/
inductive Url where
  | served (server : Server)
  | file
  | layered (scheme : String)
  | flat (scheme path : String)
deriving DecidableEq

namespace Url

/-! ## 1. Schemes -/

/-- The schemes with a server, and their standard ports. -/
def serverPorts : List (String × Nat) :=
  [("http", 80), ("https", 443), ("ws", 80), ("wss", 443), ("ftp", 21)]

/-- The standard port of a scheme with a server. -/
def standardPort? (scheme : String) : Option Nat := serverPorts.lookup scheme

/-- What the rules for reading an address depend on: `server` schemes have a host and take a
backslash for a slash, `file` has a host of another kind, `free` schemes take everything as it
is. -/
inductive SchemeKind where
  | server
  | file
  | free
deriving DecidableEq

/-- The kind of a scheme, by its name. -/
def schemeKind (scheme : String) : SchemeKind :=
  if (standardPort? scheme).isSome then .server else if scheme = "file" then .file else .free

/-- The scheme of an address. -/
def scheme : Url → String
  | .served s => s.scheme
  | .file => "file"
  | .layered s => s
  | .flat s _ => s

/-! ## 2. Preparation -/

/-- Controls and the space. -/
def isEdge (c : Char) : Bool := decide (c.toNat ≤ 0x20)

/-- Tab, line feed and carriage return, which count nowhere. -/
def isIgnored (c : Char) : Bool := c == '\t' || c == '\n' || c == '\r'

/-- The characters of an address that count: none of the controls and spaces at its ends, and no
tabs and line ends. -/
def significant (s : List Char) : List Char :=
  ((((s.dropWhile isEdge).reverse).dropWhile isEdge).reverse).filter fun c => !isIgnored c

/-- A character of a scheme after the first one. -/
def isSchemeChar (c : Char) : Bool := c.isAlphanum || c == '+' || c == '-' || c == '.'

/-- The scheme, in small letters, and what follows its colon. -/
def splitScheme? (s : List Char) : Option (String × List Char) :=
  match s with
  | [] => none
  | c :: _ =>
    if c.isAlpha then
      match s.dropWhile isSchemeChar with
      | ':' :: rest => some (String.ofList ((s.takeWhile isSchemeChar).map Char.toLower), rest)
      | _ => none
    else none

/-- A slash of either kind. -/
def isSlash (c : Char) : Bool := c == '/' || c == '\\'

/-- The character ends the part of an address that names user, host and port. -/
def endsAuthority (kind : SchemeKind) (c : Char) : Bool :=
  c == '/' || c == '?' || c == '#' || (kind != .free && c == '\\')

/-! ## 3. User, host and port -/

/-- What stands before and after the last `@`. -/
def splitUser? (s : List Char) : Option (List Char × List Char) :=
  match s.reverse.dropWhile (· != '@') with
  | [] => none
  | _ :: before => some (before.reverse, (s.reverse.takeWhile (· != '@')).reverse)

/-- The characters of a host, which may hold colons between square brackets, and the rest. -/
def splitHost : Bool → List Char → List Char × List Char
  | _, [] => ([], [])
  | bracketed, c :: cs =>
    if c = ':' ∧ !bracketed then ([], c :: cs)
    else
      let (host, rest) := splitHost (c = '[' ∨ (c ≠ ']' ∧ bracketed)) cs
      (c :: host, rest)

/-- The greatest port. -/
def portLimit : Nat := 65535

/-- The port after a host: `some none` when none is given.  A backslash ends it for every
scheme. -/
def port? : List Char → Option (Option Nat)
  | ':' :: s =>
    let digits := s.takeWhile Char.isDigit
    match s.drop digits.length with
    | [] => bounded digits
    | c :: _ => if c = '\\' then bounded digits else none
  | _ => some none
where
  /-- The number of a port, if there is one. -/
  bounded (digits : List Char) : Option (Option Nat) :=
    if digits.isEmpty then some none
    else (numberIn? 10 digits).bind fun n => if n ≤ portLimit then some (some n) else none

/-- The part of an address after two slashes: the host, or `some none` for an empty one, and the
port. -/
def authority? (kind : SchemeKind) (s : List Char) : Option (Option Host × Option Nat) :=
  let part := s.takeWhile fun c => !endsAuthority kind c
  let pathFollows := part.length < s.length
  let (user, place) := (splitUser? part).getD ([], part)
  -- A lone colon names no user.
  let named := !(user.isEmpty || user == [':'])
  if user.isEmpty ∧ (splitUser? part).isSome ∧ place.isEmpty ∧ pathFollows then none
  else
    let (text, rest) := splitHost false place
    match kind with
    | .free =>
      if !isFreeHost text || (text.isEmpty && (named || !rest.isEmpty)) then none
      else (port? rest).map fun port => (none, port)
    | _ => do
      if text.isEmpty then none
      else
        let host ← Host.ofText? text
        let port ← port? rest
        some (some host, port)

/-- An address of which the part after two slashes is given. -/
def ofAuthority? (scheme : String) (s : List Char) : Option Url :=
  let kind := schemeKind scheme
  match authority? kind s with
  | none => none
  | some (some host, port) =>
    (standardPort? scheme).map fun standard => .served ⟨scheme, host, port.getD standard⟩
  | some (none, _) => some (.layered scheme)

/-! ## 4. Files -/

/-- A letter and a colon or a bar. -/
def isDrive : List Char → Bool
  | [a, b] => a.isAlpha && (b == ':' || b == '|')
  | _ => false

/-- The address of a file.  Only a host can make it invalid. -/
def file? : List Char → Option Url
  | a :: b :: s =>
    if isSlash a && isSlash b then
      let host := s.takeWhile fun c => !endsAuthority .file c
      if host.isEmpty || isDrive host || (Host.ofText? host).isSome then some .file else none
    else some .file
  | _ => some .file

/-! ## 5. Addresses -/

/-- A path that is a free text: up to a query or a fragment, with controls and all characters
beyond ASCII as escaped bytes. -/
def flatPath (s : List Char) : List Char :=
  (s.takeWhile fun c => c != '?' && c != '#').flatMap fun c =>
    if c.toNat < 0x20 ∨ 0x7e < c.toNat then
      (String.ofList [c]).toUTF8.toList.flatMap fun b =>
        ['%', (Nat.digitChar (b.toNat / 16)).toUpper, (Nat.digitChar (b.toNat % 16)).toUpper]
    else [c]

/-- An address relative to one that has a server or a path with slashes.  Two slashes give a new
server, anything else keeps the place. -/
def relative? (base : Url) (s : List Char) : Option Url :=
  let rest := s.dropWhile isSlash
  if s.length < rest.length + 2 then some base
  else if ['/', '/'] <+: s then ofAuthority? base.scheme (s.drop 2)
  else ofAuthority? base.scheme rest

/-- An address without a scheme of its own. -/
def inherited? (base : Url) (s : List Char) : Option Url :=
  if s.head? = some '#' then some base
  else
    match base with
    | .flat _ _ => none
    | .file => file? s
    | _ => relative? base s

/-- An address with a scheme.  A server scheme without two slashes is relative to a base of the
same scheme, and needs no slashes otherwise. -/
def withScheme? (base : Option Url) (scheme : String) (s : List Char) : Option Url :=
  match schemeKind scheme with
  | .file => file? s
  | .server =>
    let rest := s.dropWhile isSlash
    match base with
    | some b =>
      if s.length < rest.length + 2 ∧ b.scheme = scheme then relative? b s
      else ofAuthority? scheme rest
    | none => ofAuthority? scheme rest
  | .free =>
    match s with
    | '/' :: '/' :: rest => ofAuthority? scheme rest
    | '/' :: _ => some (.layered scheme)
    | _ => some (.flat scheme (String.ofList (flatPath s)))

/-- Reads an address, which may be relative to a base. -/
def ofText? (base : Option Url) (text : String) : Option Url :=
  let s := significant text.toList
  match splitScheme? s with
  | some (scheme, rest) => withScheme? base scheme rest
  | none => base.bind fun b => inherited? b s

end Url

end SoundEngine
