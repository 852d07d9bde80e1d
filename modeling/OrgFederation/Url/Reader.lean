/-
This file reads URLs. The reader is lenient where browsers are: it drops tabs and line breaks,
takes backslashes for slashes in the schemes of the web, and resolves dot segments.
-/

import OrgFederation.Url.Basic
import OrgFederation.Url.Domain
import OrgFederation.Url.Percent

namespace OrgFederation

/-- Why a text is no absolute URL. -/
inductive UrlError where
  | emptyHost
  | invalidDomainName
  | invalidPort
  | invalidIpv4Address
  | invalidIpv6Address
  | invalidHostCharacter
  | relative
  deriving DecidableEq, Repr

def UrlError.message : UrlError → String
  | .emptyHost => "empty host"
  | .invalidDomainName => "invalid international domain name"
  | .invalidPort => "invalid port number"
  | .invalidIpv4Address => "invalid IPv4 address"
  | .invalidIpv6Address => "invalid IPv6 address"
  | .invalidHostCharacter => "invalid domain character"
  | .relative => "relative URL without a base"

namespace UrlReader

/-- Tabs and line breaks are no part of a URL. -/
def isIgnored (letter : Char) : Bool :=
  letter == '\t' || letter == '\n' || letter == '\r'

/-- Controls and spaces around a URL are no part of it. -/
def isEdge (letter : Char) : Bool :=
  letter.toNat ≤ 0x20

/-- The characters of a text that count. -/
def cleaned (text : String) : List Char :=
  let started := text.toList.dropWhile isEdge
  let trimmed := (started.reverse.dropWhile isEdge).reverse
  trimmed.filter fun letter => !isIgnored letter

def isSchemeLetter (letter : Char) : Bool :=
  letter.isAlphanum || letter == '+' || letter == '-' || letter == '.'

/-- A scheme in lower case, and what follows its colon. -/
def scheme? (input : List Char) : Option (String × List Char) :=
  match input.span isSchemeLetter with
  | (first :: others, ':' :: rest) =>
      if first.isAlpha then some (String.ofList ((first :: others).map Char.toLower), rest)
      else none
  | _ => none

/-- A slash, or in a special scheme a backslash. -/
def isSlash (special : Bool) (letter : Char) : Bool :=
  letter == '/' || (special && letter == '\\')

/-- The characters that end a path. -/
def endsPath (letter : Char) : Bool :=
  letter == '?' || letter == '#'

/-- The characters that end an authority. -/
def endsAuthority (special : Bool) (letter : Char) : Bool :=
  isSlash special letter || endsPath letter

/-- The part of a list before the last occurrence of a character, and the part behind it. -/
def splitLast (letter : Char) (letters : List Char) : Option (List Char × List Char) :=
  match letters.reverse.span (· != letter) with
  | (behind, _ :: before) => some (before.reverse, behind.reverse)
  | _ => none

/-- A user name, and behind a colon a password, which is left out when it is empty. -/
def encodeUserinfo (letters : List Char) : List Char :=
  let (user, password) := letters.span (· != ':')
  Percent.encode Percent.userinfo user ++
    match password with
    | _ :: first :: others => ':' :: Percent.encode Percent.userinfo (first :: others)
    | _ => []

/-- The encoded user information in front of the last `@` of an authority, and what follows it. -/
def userinfo (special : Bool) (input : List Char) : Except UrlError (List Char × List Char) :=
  let (authority, rest) := input.span fun letter => !endsAuthority special letter
  match splitLast '@' authority with
  | none => .ok ([], input)
  | some ([], []) => if rest.isEmpty then .ok ([], []) else .error .emptyHost
  | some (info, host) => .ok (encodeUserinfo info, host ++ rest)

/-- The text of a host; a colon within brackets does not end it. -/
def hostText (special : Bool) : Bool → List Char → List Char × List Char
  | _, [] => ([], [])
  | inBrackets, letter :: rest =>
      if endsAuthority special letter || (letter == ':' && !inBrackets) then
        ([], letter :: rest)
      else
        let inBrackets := letter == '[' || (inBrackets && letter != ']')
        let (host, rest) := hostText special inBrackets rest
        (letter :: host, rest)

/-- An address within brackets, when the host starts with one. -/
def bracketed? : List Char → Option (Except UrlError Host)
  | '[' :: rest =>
      match rest.reverse with
      | ']' :: address =>
          match Address.ipv6? address.reverse with
          | some pieces => some (.ok (.ipv6 pieces))
          | none => some (.error .invalidIpv6Address)
      | _ => some (.error .invalidIpv6Address)
  | _ => none

/-- A host of a special scheme is a domain name, unless it is an address or ends like one. -/
def specialHost (letters : List Char) : Except UrlError Host :=
  match bracketed? letters with
  | some host => host
  | none =>
      match Domain.toAscii? (Percent.decode letters) with
      | none => .error .invalidDomainName
      | some [] => .error .emptyHost
      | some name =>
          if Address.endsInNumber name then
            match Address.ipv4? name with
            | some address => .ok (.ipv4 address)
            | none => .error .invalidIpv4Address
          else
            .ok (.name name)

/-- The characters that no host has. -/
def isForbidden (letter : Char) : Bool :=
  ['\x00', '\t', '\n', '\r', ' ', '#', '/', ':', '<', '>', '?', '@', '[', '\\', ']', '^',
    '|'].contains letter

/-- A host of any other scheme is kept as it is. -/
def plainHost (letters : List Char) : Except UrlError Host :=
  match bracketed? letters with
  | some host => host
  | none =>
      if letters.any isForbidden then .error .invalidHostCharacter
      else .ok (.name (Percent.encode Percent.controls letters))

/-- The value of the digits of a port. -/
def portValue (digits : List Char) : Nat :=
  digits.foldl (fun value digit => value * 10 + (digit.toNat - 48)) 0

/-- A port of digits only, which is left out when there are none or when it is the usual one. -/
def port (scheme : String) (input : List Char) : Except UrlError (Option Nat × List Char) :=
  let (digits, rest) := input.span Char.isDigit
  if 65535 < portValue digits then
    .error .invalidPort
  else
    match rest with
    | letter :: _ =>
        if endsAuthority true letter then .ok (found digits, rest) else .error .invalidPort
    | [] => .ok (found digits, rest)
where
  found (digits : List Char) : Option Nat :=
    if digits.isEmpty || Url.defaultPort? scheme == some (portValue digits) then none
    else some (portValue digits)

/-- A host may be empty only in schemes that are not special, and without anything around it. -/
def authority (scheme : String) (input : List Char) :
    Except UrlError (Authority × List Char) := do
  let special := Url.isSpecialScheme scheme
  let (info, input) ← userinfo special input
  let (letters, rest) := hostText special false input
  let host ←
    if special then
      if letters.isEmpty then throw .emptyHost else specialHost letters
    else
      plainHost letters
  let hasPort := rest.head? == some ':'
  let (port, behind) ← if letters.isEmpty && hasPort then throw .emptyHost
    else if hasPort then port scheme rest.tail
    else pure (none, rest)
  if letters.isEmpty && !info.isEmpty then throw .emptyHost
  return (⟨info, host, port⟩, behind)

/-- A dot may be written as it is or encoded. -/
def dots : List Char → Option Nat
  | [] => some 0
  | '.' :: rest => (dots rest).map (· + 1)
  | '%' :: '2' :: 'e' :: rest => (dots rest).map (· + 1)
  | '%' :: '2' :: 'E' :: rest => (dots rest).map (· + 1)
  | _ => none

/-- A letter and a colon or a bar name a drive. -/
def isDrive : List Char → Bool
  | [letter, mark] => letter.isAlpha && (mark == ':' || mark == '|')
  | _ => false

/-- The last segment is dropped, unless it names a drive. -/
def shorten (segments : List (List Char)) : List (List Char) :=
  match segments.getLast? with
  | some last => if isDrive last then segments else segments.dropLast
  | none => []

/-- Segments behind others, with dot segments resolved. A dot segment at the end leaves an empty
segment. -/
def resolveDots : List (List Char) → List (List Char) → List (List Char)
  | done, [] => done
  | done, segment :: rest =>
      let (done, empty) := match dots segment with
        | some 1 => (done, true)
        | some 2 => (shorten done, true)
        | _ => (done ++ [segment], false)
      if rest.isEmpty && empty then done ++ [[]] else resolveDots done rest

/-- The encoded segments of the text of a path behind its first slash. -/
def segments (special : Bool) (input : List Char) : List (List Char) :=
  resolveDots []
    ((Address.split (isSlash special) input).map (Percent.encode Percent.path))

/-- The path behind an authority. Only a special scheme has a path in any case. -/
def pathBehind (special : Bool) (input : List Char) : Path :=
  match input with
  | [] => .rooted (if special then [[]] else [])
  | letter :: rest =>
      .rooted (segments special (if isSlash special letter then rest else letter :: rest))

/-- The query and the fragment behind a path. -/
def queryAndFragment (special : Bool) (input : List Char) :
    Option (List Char) × Option (List Char) :=
  let set := if special then Percent.specialQuery else Percent.query
  let fragmentOf (rest : List Char) : Option (List Char) :=
    match rest with
    | '#' :: fragment => some (Percent.encode Percent.fragment fragment)
    | _ => none
  match input with
  | '?' :: rest =>
      let (query, rest) := rest.span (· != '#')
      (some (Percent.encode set query), fragmentOf rest)
  | rest => (none, fragmentOf rest)

/-- A URL whose authority follows. -/
def behindAuthority (scheme : String) (input : List Char) : Except UrlError Url := do
  let special := Url.isSpecialScheme scheme
  let (authority, rest) ← authority scheme input
  let (path, rest) := rest.span fun letter => !endsPath letter
  let (query, fragment) := queryAndFragment special rest
  return ⟨scheme, some authority, pathBehind special path, query, fragment⟩

/-- The path of a file starts with no empty segment, and a drive in front is marked by a colon. -/
def filePath (input : List Char) : List (List Char) :=
  match (segments true input).dropWhile List.isEmpty with
  | [] => [[]]
  | first :: rest =>
      match isDrive first, first with
      | true, letter :: _ => [letter, ':'] :: rest
      | _, _ => first :: rest

/-- A file has its host behind two slashes. The local host and a drive are no host. -/
def file (input : List Char) : Except UrlError Url := do
  let (whole, rest) := input.span fun letter => !endsPath letter
  let (query, fragment) := queryAndFragment true rest
  let (host, path) ← match whole with
    | first :: second :: behind =>
        if isSlash true first && isSlash true second then do
          let (letters, path) := behind.span fun letter => !isSlash true letter
          if letters.isEmpty || isDrive letters then
            pure (Host.name [], behind)
          else
            let host ← specialHost letters
            pure (if host = .name "localhost".toList then .name [] else host, path)
        else
          pure (.name [], whole)
    | _ => pure (.name [], whole)
  let segments := filePath path
  let host := if segments.head?.any isDrive then .name [] else host
  return ⟨"file", some ⟨[], host, none⟩, .rooted segments, query, fragment⟩

/-- A URL of a scheme that is not special has an authority, a path from a root, or a text. -/
def plain (scheme : String) (input : List Char) : Except UrlError Url :=
  match input with
  | '/' :: '/' :: rest => behindAuthority scheme rest
  | _ =>
      let (path, rest) := input.span fun letter => !endsPath letter
      let (query, fragment) := queryAndFragment false rest
      let path := match path with
        | '/' :: rest => Path.rooted (segments false rest)
        | letters => .rootless (Percent.encode Percent.controls letters)
      .ok ⟨scheme, none, path, query, fragment⟩

end UrlReader

/-- The URL that a text stands for. -/
def Url.ofText (text : String) : Except UrlError Url :=
  match UrlReader.scheme? (UrlReader.cleaned text) with
  | none => .error .relative
  | some (scheme, rest) =>
      if scheme = "file" then UrlReader.file rest
      else if isSpecialScheme scheme then
        UrlReader.behindAuthority scheme (rest.dropWhile (UrlReader.isSlash true))
      else UrlReader.plain scheme rest

end OrgFederation
