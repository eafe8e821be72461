import ChainIdentity.Url.Basic

/-!
# Reading addresses

`Url.parse` reads a complete address.  Blanks and controls around it do not count, and tabs and
line ends count nowhere.  What follows the scheme depends on it: schemes with a known structure
(web, file transfer) always have a host and a path of segments, files have their own rules for
both, and any other scheme has an authority only after two slashes.

Dots in a path are resolved while it is read: one dot stands for the segment itself, two for
the one before it.
-/

namespace ChainIdentity.Url

open ChainIdentity.Text

/-- What is known about a scheme. -/
inductive SchemeKind where
  /-- Always a host, with the given usual port. -/
  | special (port : Nat)
  /-- The files of a host. -/
  | file
  /-- Nothing. -/
  | other
deriving DecidableEq, Repr

namespace SchemeKind

/-- What is known about the scheme of the given name. -/
def ofScheme : String → SchemeKind
  | "http" => special 80
  | "https" => special 443
  | "ws" => special 80
  | "wss" => special 443
  | "ftp" => special 21
  | "file" => file
  | _ => other

/-- Whether a backslash counts as a slash. -/
def hasBackslash : SchemeKind → Bool
  | other => false
  | _ => true

/-- Whether a character is a slash. -/
def isSlash (kind : SchemeKind) (c : Char) : Bool :=
  c == '/' || (c == '\\' && kind.hasBackslash)

end SchemeKind

/-- The text without blanks and controls around it, and without tabs and line ends. -/
def cleaned (cs : List Char) : List Char :=
  let isOuter := fun c : Char => c.toNat ≤ 0x20
  let inner := ((cs.dropWhile isOuter).reverse.dropWhile isOuter).reverse
  inner.filter fun c => !(c == '\t' || c == '\n' || c == '\r')

/-- Whether a character may stand in a scheme after its first letter. -/
def isSchemeChar (c : Char) : Bool :=
  c.isAlpha || c.isDigit || c == '+' || c == '-' || c == '.'

/-- The scheme in small letters, and what follows its colon. -/
def splitScheme? (cs : List Char) : Option (String × List Char) :=
  match cs with
  | [] => none
  | first :: _ =>
    if first.isAlpha then
      match cs.dropWhile isSchemeChar with
      | ':' :: rest =>
        some (String.ofList ((cs.takeWhile isSchemeChar).map Char.toLower), rest)
      | _ => none
    else none

/-! ## Paths -/

/-- Whether a segment means the segment itself. -/
def isSingleDot (segment : List Char) : Bool :=
  let s := segment.map Char.toLower
  s == ['.'] || s == ['%', '2', 'e']

/-- Whether a segment means the one before it. -/
def isDoubleDot (segment : List Char) : Bool :=
  let s := segment.map Char.toLower
  s == ['.', '.'] || s == ['.', '%', '2', 'e'] || s == ['%', '2', 'e', '.']
    || s == ['%', '2', 'e', '%', '2', 'e']

/-- Whether a segment names a drive: a letter and a colon or bar. -/
def isDrive : List Char → Bool
  | [letter, mark] => letter.isAlpha && (mark == ':' || mark == '|')
  | _ => false

/-- The segments without the last one; a drive stays. -/
def shorten (reversed : List (List Char)) : List (List Char) :=
  match reversed with
  | [] => []
  | last :: rest => if isDrive last then last :: rest else rest

/-- Adds a segment to the ones read so far; `final` says that no slash follows it.  A path
that ends in dots ends in a slash. -/
def addSegment (kind : SchemeKind) (final : Bool) (reversed : List (List Char))
    (segment : List Char) : List (List Char) :=
  if isDoubleDot segment then
    let shorter := shorten reversed
    if final then [] :: shorter else shorter
  else if isSingleDot segment then if final then [] :: reversed else reversed
  else
    match kind, reversed, segment with
    | .file, [], [letter, mark] =>
      if isDrive [letter, mark] then [[letter, ':']] else [[letter, mark]]
    | _, _, _ => segment :: reversed

/-- Reads segments up to the end.  `current` is the segment being read, in reverse. -/
def readSegments (kind : SchemeKind) (reversed : List (List Char)) (current : List Char) :
    List Char → List (List Char)
  | [] => (addSegment kind true reversed (encode .path current.reverse)).reverse
  | c :: rest =>
    if kind.isSlash c then
      readSegments kind (addSegment kind false reversed (encode .path current.reverse)) [] rest
    else readSegments kind reversed (c :: current) rest

/-- Whether a character ends the path. -/
def endsPath (c : Char) : Bool :=
  c == '?' || c == '#'

/-- The segments of a path whose first slash has been read. -/
def pathSegments (kind : SchemeKind) (cs : List Char) : List (List Char) :=
  let segments := readSegments kind [] [] (cs.takeWhile (!endsPath ·))
  match kind with
  | .file =>
    match segments.dropWhile List.isEmpty with
    | [] => [[]]
    | nonEmpty => nonEmpty
  | _ => segments

/-- A path of segments as a part of an address. -/
def segmentPath (segments : List (List Char)) : UrlPath :=
  .segments (segments.map String.ofList)

/-! ## The end of an address -/

/-- The query and fragment at the end of an address. -/
def readEnd (kind : SchemeKind) (cs : List Char) : Option String × Option String :=
  let part := if kind = .other then Part.query else Part.specialQuery
  match cs with
  | '?' :: rest =>
    let query := some (String.ofList (encode part (rest.takeWhile (· != '#'))))
    match rest.dropWhile (· != '#') with
    | '#' :: rest => (query, some (String.ofList (encode .fragment rest)))
    | _ => (query, none)
  | '#' :: rest => (none, some (String.ofList (encode .fragment rest)))
  | _ => (none, none)

/-- An address made of its first parts and the text after its path. -/
def finish (kind : SchemeKind) (scheme : String) (authority : Option Authority) (path : UrlPath)
    (rest : List Char) : Url :=
  let (query, fragment) := readEnd kind (rest.dropWhile (!endsPath ·))
  ⟨scheme, authority, path, query, fragment⟩

/-! ## Authorities -/

/-- The authority at the front of a text, up to the path. -/
def splitAuthority (kind : SchemeKind) (cs : List Char) : List Char × List Char :=
  let isInside := fun c => !(kind.isSlash c || endsPath c)
  (cs.takeWhile isInside, cs.dropWhile isInside)

/-- User name and password, written together in front of the host. -/
def readCredentials (cs : List Char) : String × Option String :=
  let username := String.ofList (encode .userinfo (cs.takeWhile (· != ':')))
  match cs.dropWhile (· != ':') with
  | _ :: c :: rest => (username, some (String.ofList (encode .userinfo (c :: rest))))
  | _ => (username, none)

/-- The text up to the last sign between credentials and host, and the text after it. -/
def splitCredentials (cs : List Char) : Option (List Char) × List Char :=
  let host := (cs.reverse.takeWhile (· != '@')).reverse
  if cs.contains '@' then (some (cs.take (cs.length - host.length - 1)), host) else (none, host)

/-- The host and, after a colon outside brackets, the port.  A bracket may open and close
anywhere in the host. -/
def splitPort (inBrackets : Bool) : List Char → List Char × Option (List Char)
  | [] => ([], none)
  | c :: rest =>
    if c = ':' ∧ !inBrackets then ([], some rest)
    else
      let inside := if c = '[' then true else if c = ']' then false else inBrackets
      let (host, port) := splitPort inside rest
      (c :: host, port)

/-- Reads a port; an absent number and the usual port of the scheme are left out.  A backslash
ends the port even where it is no slash. -/
def readPort (kind : SchemeKind) (cs : List Char) : Except UrlError (Option UInt16) :=
  let digits := cs.takeWhile (· != '\\')
  match digits with
  | [] => .ok none
  | _ =>
    match Numeral.value? 10 digits with
    | none => .error .invalidPort
    | some n =>
      if 0x10000 ≤ n then .error .invalidPort
      else if kind = .special n then .ok none
      else .ok (some (UInt16.ofNat n))

/-- Reads what stands between the two slashes and the path. -/
def readAuthority (kind : SchemeKind) (inside after : List Char) : Except UrlError Authority := do
  let (credentials, address) := splitCredentials inside
  if credentials = some [] ∧ address.isEmpty ∧ !after.isEmpty then throw .emptyHost
  let (username, password) := readCredentials (credentials.getD [])
  let (hostText, portText) := splitPort false address
  let host ←
    if kind = .other then Host.readVerbatim hostText
    else if hostText.isEmpty then throw .emptyHost
    else (Host.read hostText).map some
  if host.isNone ∧ portText.isSome then throw .emptyHost
  let port ← readPort kind (portText.getD [])
  if host.isNone ∧ (!username.isEmpty ∨ password.isSome) then throw .emptyHost
  return ⟨username, password, host, port⟩

/-! ## Whole addresses -/

/-- Reads an address whose scheme always has a host. -/
def readSpecial (kind : SchemeKind) (scheme : String) (cs : List Char) : Except UrlError Url := do
  let (inside, after) := splitAuthority kind (cs.dropWhile fun c => c == '/' || c == '\\')
  let authority ← readAuthority kind inside after
  let path := match after with
    | c :: rest => if kind.isSlash c then rest else after
    | [] => []
  return finish kind scheme (some authority) (segmentPath (pathSegments kind path)) after

/-- Reads an address whose scheme is not known. -/
def readOther (scheme : String) (cs : List Char) : Except UrlError Url := do
  match cs with
  | '/' :: '/' :: rest =>
    let (inside, after) := splitAuthority .other rest
    let authority ← readAuthority .other inside after
    -- A port ends at a backslash, which then belongs to the path.
    let stray := match (splitPort false (splitCredentials inside).2).2 with
      | some port => port.dropWhile (· != '\\')
      | none => []
    let after := stray ++ after
    let path := match after with
      | '/' :: path => pathSegments .other path
      | c :: _ => if endsPath c then [] else pathSegments .other after
      | [] => []
    return finish .other scheme (some authority) (segmentPath path) after
  | '/' :: rest =>
    return finish .other scheme none (segmentPath (pathSegments .other rest)) rest
  | _ =>
    let text := String.ofList (encode .verbatim (cs.takeWhile (!endsPath ·)))
    return finish .other scheme none (.verbatim text) cs

/-- Reads the address of a file.  A host that is the machine itself is left out, and so is one
in front of a drive. -/
def readFile (scheme : String) (cs : List Char) : Except UrlError Url := do
  let isSlash := SchemeKind.file.isSlash
  let withoutSlash := fun rest : List Char =>
    match rest with
    | c :: rest' => if isSlash c then rest' else rest
    | [] => []
  let build := fun (host : Option Host) (rest : List Char) =>
    let segments := pathSegments .file (withoutSlash rest)
    let host := if segments.head?.any isDrive then none else host
    finish .file scheme (some ⟨"", none, host, none⟩) (segmentPath segments) rest
  match cs with
  | a :: b :: rest =>
    if isSlash a && isSlash b then
      let (hostText, after) := splitAuthority .file rest
      if isDrive hostText then return build none rest
      else if hostText.isEmpty then return build none after
      else
        match ← Host.read hostText with
        | .name "localhost" => return build none after
        | host => return build (some host) after
    else return build none cs
  | _ => return build none cs

/-- Reads an address. -/
def parse (s : String) : Except UrlError Url :=
  match splitScheme? (cleaned s.toList) with
  | none => .error .noScheme
  | some (scheme, rest) =>
    match SchemeKind.ofScheme scheme with
    | .special port => readSpecial (.special port) scheme rest
    | .file => readFile scheme rest
    | .other => readOther scheme rest

end ChainIdentity.Url
