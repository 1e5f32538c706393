import StagedSql.Text.Number
import StagedSql.Url.Host
import StagedSql.Url.Path

/-!
# Addresses

An address in its normal form: scheme and host in lower case, the usual port left out, the path
without dot segments, and characters that an address does not hold as they are written as escapes.
-/

namespace StagedSql

structure Url where
  scheme : List Char
  user : List Char
  host : List Char
  port : Option Int
  path : List Char
  query : Option (List Char)
  fragment : Option (List Char)
  deriving DecidableEq, Repr

namespace Url

/-! ### Text -/

/-- The host as an address shows it: a number with colons stands in brackets. -/
def hostText (u : Url) : List Char := if ':' ∈ u.host then '[' :: u.host ++ [']'] else u.host

def authority (u : Url) : List Char :=
  (if u.user = [] then [] else u.user ++ ['@']) ++ u.hostText ++
    match u.port with
    | some p => ':' :: (toString p).toList
    | none => []

def marked (mark : Char) : Option (List Char) → List Char
  | some part => mark :: part
  | none => []

def chars (u : Url) : List Char :=
  (if u.scheme = [] then [] else u.scheme ++ [':']) ++
    (if u.authority = [] then [] else '/' :: '/' :: u.authority) ++
    u.path ++ marked '?' u.query ++ marked '#' u.fragment

def text (u : Url) : String := String.ofList u.chars

def isAbsolute (u : Url) : Bool := !u.scheme.isEmpty && !u.host.isEmpty

/-! ### Parts -/

def isSchemeChar (c : Char) : Bool := c.isAlphanum || c = '+' || c = '.' || c = '-'

/-- The scheme before the first colon, if only a scheme stands before it, and the rest. -/
def splitScheme (s : List Char) : List Char × List Char :=
  let scheme := s.takeWhile isSchemeChar
  let rest := s.dropWhile isSchemeChar
  if rest.head? = some ':' ∧ scheme.head?.all Char.isAlpha then (scheme, rest.tail) else ([], s)

def endsAuthority (c : Char) : Bool := c = '/' || c = '?' || c = '#'

def splitAuthority : List Char → List Char × List Char
  | '/' :: '/' :: rest =>
    (rest.takeWhile (!endsAuthority ·), rest.dropWhile (!endsAuthority ·))
  | s => ([], s)

/-- The part behind `mark`, if `s` begins with it, up to `stop`, and the rest. -/
def splitMarked (mark : Char) (stop : Char → Bool) (s : List Char) :
    Option (List Char) × List Char :=
  if s.head? = some mark then (some (s.tail.takeWhile (!stop ·)), s.tail.dropWhile (!stop ·))
  else (none, s)

/-- What stands before the last at sign, and what stands behind it. -/
def splitUser (authority : List Char) : List Char × List Char :=
  let rest := (authority.reverse.takeWhile (· ≠ '@')).reverse
  (authority.take (authority.length - rest.length - 1), rest)

/-- The host and the port of an authority. Brackets hold the colons of a number. -/
def splitPort (s : List Char) : List Char × List Char :=
  let behind := (s.reverse.takeWhile (· ≠ ']')).reverse
  let host :=
    if s.head? = some '[' ∧ behind.length ≠ s.length then s.take (s.length - behind.length)
    else s.takeWhile (· ≠ ':')
  let rest := s.drop host.length
  (host, if rest.head? = some ':' then rest.tail else rest)

/-! ### Reading -/

def usualPort? (scheme : List Char) : Option Int :=
  [("ftp", 21), ("http", 80), ("https", 443), ("ws", 80), ("wss", 443)].lookup (String.ofList scheme)

/-- The port, where it is given and not the usual one of the scheme; nothing for a port that is no
number. -/
def readPort? (scheme port : List Char) : Option (Option Int) :=
  if port = [] then some none
  else
    match Text.readWhole (String.ofList port) with
    | .ok p => some (if usualPort? scheme = some p then none else some p)
    | .error _ => none

def userExcluded : String := "\"#<>?`\x7b\x7d/;=@[\\]^|"
def pathExcluded : String := "\"#<>?`\x7b\x7d"
def queryExcluded : String := "\"#<>"
def fragmentExcluded : String := "\"<>`"

def longest : Nat := 65536

def isControl (c : Char) : Bool := c.toNat < 0x20 || c.toNat = 0x7F

/-- A path behind an authority is empty or begins with a slash; a path alone begins neither with two
slashes nor with a colon. -/
def pathFits (hasScheme hasAuthority : Bool) (path : List Char) : Bool :=
  if hasAuthority then path.isEmpty || path.head? = some '/'
  else hasScheme || !(['/', '/'].isPrefixOf path || path.head? = some ':')

def read? (s : List Char) : Option Url :=
  if longest < s.length ∨ s.any isControl then none
  else
    let (scheme, rest) := splitScheme s
    let (authority, rest) := splitAuthority rest
    let path := rest.takeWhile fun c => c ≠ '?' && c ≠ '#'
    let (query, rest) := splitMarked '?' (· = '#') (rest.drop path.length)
    let (fragment, _) := splitMarked '#' (fun _ => false) rest
    let (user, rest) := splitUser authority
    let (host, port) := splitPort rest
    match readHost? host, readPort? scheme port with
    | some host, some port =>
      let escaped (excluded : String) (part : List Char) := Text.escapedUnless (isKept excluded) part
      let hasAuthority := user ≠ [] || host ≠ [] || port.isSome
      let hasScheme := scheme ≠ []
      let normal := if hasScheme || hasAuthority then normalPath path else path
      if pathFits hasScheme hasAuthority path then
        some {
          scheme := scheme.map Char.toLower, user := escaped userExcluded user, host, port
          path := escaped pathExcluded normal
          query := query.map (escaped queryExcluded)
          fragment := fragment.map (escaped fragmentExcluded) }
      else none
    | _, _ => none

/-- The address where it stands alone: an absolute one as it is, of any other one the path and the
query below the root. -/
def resolved? (u : Url) : Option Url :=
  if u.isAbsolute then some u
  else
    let path := '/' :: u.path.dropWhile (· = '/')
    if longest < path.length ∨ u.query.any (longest < ·.length) then none
    else some ⟨[], [], [], none, path, u.query, none⟩

example : (read? "https://AZ.Example:443/a b/../c?x=<1>".toList).map text =
    some "https://az.example/c?x=%3C1%3E" := by decide +kernel
example : (read? "//host:x/".toList).map text = none := by decide +kernel
example : ((read? "a//b?c#d".toList).bind resolved?).map text = some "/a//b?c" := by decide +kernel

end Url

end StagedSql
