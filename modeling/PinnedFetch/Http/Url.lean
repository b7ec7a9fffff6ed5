/-
# URLs

A reference is a scheme, an authority and a path with its query; any of the first two may be
missing.  A URL to fetch has both, and its scheme is one that has a service number of its own.

The characters and their order are all that is looked at.  A text may have any length, the name of
a server is not looked up, and `https` differs from `http` in its service number alone.
-/
import PinnedFetch.Text.Fields

namespace PinnedFetch.Http

/-- Why a text is no reference. -/
inductive ReferenceFault where
  | empty
  | character
  | authority
  | format
  deriving DecidableEq, Repr

/-- The fault in words. -/
def ReferenceFault.message : ReferenceFault → String
  | empty => "empty string"
  | character => "invalid uri character"
  | authority => "invalid authority"
  | format => "invalid format"

/-- A reference as it is written. -/
structure Reference where
  scheme : Option String
  authority : Option String
  /-- The path and the query. -/
  path : List Char
  deriving DecidableEq, Repr

namespace Reference

/-! ## 1. Characters -/

/-- Letters and digits. -/
def isAlphanum (c : Char) : Bool :=
  ('a' ≤ c && c ≤ 'z') || ('A' ≤ c && c ≤ 'Z') || ('0' ≤ c && c ≤ '9')

/-- The characters of a scheme. -/
def isSchemeChar (c : Char) : Bool := isAlphanum c || c = '+' || c = '-' || c = '.'

/-- The characters of an authority, brackets, colons and the at sign included. -/
def isAuthorityChar (c : Char) : Bool :=
  isAlphanum c || "!$&'()*+,-.:;=@[]_~".toList.contains c

/-- The characters of a path. -/
def isPathChar (c : Char) : Bool :=
  let n := c.toNat
  n = 0x21 || n = 0x22 || (0x24 ≤ n && n ≤ 0x3B) || n = 0x3D || (0x40 ≤ n && n ≤ 0x5F) ||
    (0x61 ≤ n && n ≠ 0x60)

/-- The characters of a query. -/
def isQueryChar (c : Char) : Bool :=
  let n := c.toNat
  n = 0x21 || (0x24 ≤ n && n ≤ 0x3B) || n = 0x3D || 0x3F ≤ n

/-! ## 2. Reading -/

/-- Splits off a scheme and the two slashes behind it. -/
def splitScheme (cs : List Char) : Option (List Char) × List Char :=
  match cs.takeWhile isSchemeChar, cs.dropWhile isSchemeChar with
  | scheme, ':' :: '/' :: '/' :: rest => (some scheme, rest)
  | _, _ => (none, cs)

/-- Whether the brackets, colons and at signs of an authority make sense. -/
def authorityIsSound (cs : List Char) : Bool :=
  let host := (cs.reverse.takeWhile (· != '@')).reverse
  let service := (host.reverse.takeWhile (· != ']')).reverse
  cs.count '[' ≤ 1 && cs.count '[' = cs.count ']' && service.count ':' ≤ 1 &&
    cs.getLast? ≠ some '@' && !service.contains '%'

/-- Splits off an authority: all up to a slash, a question mark or a number sign. -/
def splitAuthority (cs : List Char) : Except ReferenceFault (List Char × List Char) :=
  let isInside := fun c => !(c = '/' || c = '?' || c = '#')
  let authority := cs.takeWhile isInside
  if !authority.all (fun c => isAuthorityChar c || c = '%') then .error .character
  else if authorityIsSound authority then .ok (authority, cs.dropWhile isInside)
  else .error .authority

/-- Reads a path and a query; a fragment is left out. -/
def readPath (cs : List Char) : Except ReferenceFault (List Char) :=
  let whole := cs.takeWhile (· != '#')
  let path := whole.takeWhile (· != '?')
  let query := whole.dropWhile (· != '?')
  if path.all isPathChar && query.all isQueryChar then .ok whole else .error .character

/-- Reads a reference. -/
def read (s : String) : Except ReferenceFault Reference :=
  match s.toList with
  | [] => .error .empty
  | '/' :: cs => do return ⟨none, none, ← readPath ('/' :: cs)⟩
  | cs => do
    let (scheme, rest) := splitScheme cs
    let (authority, path) ← splitAuthority rest
    match scheme with
    | none =>
      if path = [] then return ⟨none, some (String.ofList authority), []⟩
      else .error .format
    | some scheme =>
      if authority = [] then .error .format
      else return ⟨some (String.ofList scheme), some (String.ofList authority), ← readPath path⟩

/-- A reference as it is shown. -/
def shown (r : Reference) : String :=
  (match r.scheme with
    | some s => s ++ "://"
    | none => "") ++ r.authority.getD "" ++ String.ofList r.path

end Reference

/-- A URL that can be fetched. -/
structure Url where
  scheme : String
  authority : String
  /-- The path and the query; it starts with a slash. -/
  path : String
  deriving DecidableEq, Repr

namespace Url

/-- The service number of a scheme that has one. -/
def defaultService? (scheme : String) : Option Nat :=
  if scheme = "http" then some 80 else if scheme = "https" then some 443 else none

/-- A path as it is asked for: it starts with a slash. -/
def rooted (path : List Char) : String :=
  String.ofList (if path.head? = some '/' then path else '/' :: path)

/-- The URL of a reference, or what the reference lacks. -/
def ofReference (r : Reference) : Except String Url :=
  match r.scheme, r.authority with
  | none, _ => .error s!"bad uri: {r.shown} is missing scheme"
  | some _, none => .error s!"bad uri: {r.shown} is missing host"
  | some scheme, some authority =>
    let lower := String.ofList (scheme.toList.map Char.toLower)
    match defaultService? lower with
    | some _ => .ok ⟨lower, authority, rooted r.path⟩
    | none => .error s!"bad uri: unknown scheme: {scheme}"

/-- Reads a URL, or says why there is none. -/
def read (s : String) : Except String Url :=
  match Reference.read s with
  | .ok r => ofReference r
  | .error fault => .error ("http: " ++ fault.message)

/-- The directory part of a path: all up to its last slash, the query left out. -/
def directory (path : String) : List Char :=
  ((path.toList.takeWhile (· != '?')).reverse.dropWhile (· != '/')).reverse

/-- The URL that a location header leads to from a URL.  A location is a URL, a path from the
root, a query, or a path beside the present one; one that climbs is refused. -/
def resolve (base : Url) (location : String) : Except String Url :=
  let malformed : Except String Url :=
    .error s!"protocol: location header is malformed: {location}"
  let beside := fun (path : List Char) =>
    match Reference.readPath path with
    | .ok p => .ok { base with path := rooted p }
    | .error _ => malformed
  match Reference.splitScheme location.toList with
  | (some _, _) =>
    match read location with
    | .ok url => .ok url
    | .error _ => malformed
  | (none, '/' :: '/' :: rest) =>
    match read (base.scheme ++ "://" ++ String.ofList rest) with
    | .ok url => .ok url
    | .error _ => malformed
  | (none, '/' :: rest) => beside ('/' :: rest)
  | (none, '?' :: rest) => beside (base.path.toList.takeWhile (· != '?') ++ '?' :: rest)
  | (none, '.' :: '.' :: _) => malformed
  | (none, '.' :: '/' :: rest) => beside (directory base.path ++ rest)
  | (none, rest) => beside (directory base.path ++ rest)

/-- The authority without the name of a user. -/
def server (u : Url) : String :=
  String.ofList (u.authority.toList.reverse.takeWhile (· != '@')).reverse

/-- The name or number of the server. -/
def host (u : Url) : String :=
  String.ofList (u.server.toList.takeWhile (· != ':'))

/-- The number of the service at the server: the one that is written, or that of the scheme. -/
def service (u : Url) : Nat :=
  match Text.secondField? ':' u.server.toList with
  | some digits => (String.ofList digits).toNat?.getD 0
  | none => (defaultService? u.scheme).getD 0

/-- The request line for a URL, to its own server. -/
def requestLine (u : Url) : String := s!"GET {u.path} HTTP/1.1"

/-- The request line for a URL, to a proxy. -/
def proxyLine (u : Url) : String := s!"GET {u.scheme}://{u.authority}{u.path} HTTP/1.1"

end Url
end PinnedFetch.Http
