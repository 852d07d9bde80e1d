import OrgFederation.Url.Address

namespace OrgFederation

/-- A host is a name or a numeric address. -/
inductive Host where
  | name (letters : List Char)
  | ipv4 (address : Nat)
  | ipv6 (pieces : List Nat)
  deriving DecidableEq, Repr

/-- A port is kept only when it is not the usual one of the scheme. The user information is empty
when there is none. -/
structure Authority where
  userinfo : List Char
  host : Host
  port : Option Nat
  deriving DecidableEq, Repr

/-- A path starts at a root and has segments, or it is a text of its own. -/
inductive Path where
  | rooted (segments : List (List Char))
  | rootless (letters : List Char)
  deriving DecidableEq, Repr

/-- Every part of a URL is already encoded. -/
structure Url where
  scheme : String
  authority : Option Authority
  path : Path
  query : Option (List Char)
  fragment : Option (List Char)
  deriving DecidableEq, Repr

namespace Url

/-- The schemes that always have a host and a path. -/
def specialSchemes : List String := ["http", "https", "ws", "wss", "ftp", "file"]

def isSpecialScheme (scheme : String) : Bool :=
  specialSchemes.contains scheme

def isSpecial (url : Url) : Bool :=
  isSpecialScheme url.scheme

/-- The schemes over which requests are sent. -/
def isHttp (url : Url) : Bool :=
  url.scheme == "http" || url.scheme == "https"

/-- The usual port of a scheme. -/
def defaultPort? : String → Option Nat
  | "http" | "ws" => some 80
  | "https" | "wss" => some 443
  | "ftp" => some 21
  | _ => none

end Url

def Host.letters : Host → List Char
  | .name letters => letters
  | .ipv4 address => Address.ipv4Text address
  | .ipv6 pieces => '[' :: Address.ipv6Text pieces ++ [']']

def Authority.letters (authority : Authority) : List Char :=
  (if authority.userinfo.isEmpty then [] else authority.userinfo ++ ['@']) ++
    authority.host.letters ++
    authority.port.elim [] fun port => ':' :: Nat.toDigits 10 port

namespace Path

/-- Every segment follows a slash. -/
def letters : Path → List Char
  | .rooted segments => segments.flatMap ('/' :: ·)
  | .rootless letters => letters

/-- Without an authority a path must not look like one. -/
def lettersAlone (path : Path) : List Char :=
  match path with
  | .rooted ([] :: _ :: _) => '/' :: '.' :: path.letters
  | _ => path.letters

end Path

namespace Url

def letters (url : Url) : List Char :=
  url.scheme.toList ++ ':' ::
    (match url.authority with
      | some authority => '/' :: '/' :: authority.letters ++ url.path.letters
      | none => url.path.lettersAlone) ++
    url.query.elim [] ('?' :: ·) ++ url.fragment.elim [] ('#' :: ·)

def text (url : Url) : String :=
  String.ofList url.letters

/-- A server sees nothing of the fragment. -/
def withoutFragment (url : Url) : Url :=
  { url with fragment := none }

/-- User information goes into a header and not into the address of a request. -/
def withoutUserinfo (url : Url) : Url :=
  { url with authority := url.authority.map fun authority => { authority with userinfo := [] } }

end Url

end OrgFederation
