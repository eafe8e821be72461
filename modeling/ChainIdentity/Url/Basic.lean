import ChainIdentity.Url.Host

/-!
# Addresses of nodes

An address is kept in its parts, each in its encoded form.  A path is either a list of
segments or, where nothing is known about its structure, a text.  `Url.render` writes the one
text of an address.
-/

namespace ChainIdentity

open ChainIdentity.Text ChainIdentity.Url

/-- Who is asked for, and where. -/
structure Authority where
  /-- The encoded user name. -/
  username : String
  /-- The encoded password. -/
  password : Option String
  /-- The host; a few schemes do without. -/
  host : Option Host
  /-- The port, if it is not the usual one of the scheme. -/
  port : Option UInt16
deriving DecidableEq, Repr

/-- A path. -/
inductive UrlPath where
  /-- A text without structure. -/
  | verbatim (text : String)
  /-- Segments with a slash in front of each. -/
  | segments (segments : List String)
deriving DecidableEq, Repr

/-- An address. -/
structure Url where
  /-- The scheme in small letters. -/
  scheme : String
  /-- The authority. -/
  authority : Option Authority
  /-- The encoded path. -/
  path : UrlPath
  /-- The encoded part after the question mark. -/
  query : Option String
  /-- The encoded part after the number sign. -/
  fragment : Option String
deriving DecidableEq, Repr

namespace Authority

/-- The text of an authority. -/
def render (authority : Authority) : String :=
  let credentials :=
    match authority.password with
    | some password => authority.username ++ ":" ++ password ++ "@"
    | none => if authority.username.isEmpty then "" else authority.username ++ "@"
  let host := (authority.host.map Host.render).getD ""
  let port := (authority.port.map fun port => ":" ++ Numeral.decimal port.toNat).getD ""
  credentials ++ host ++ port

end Authority

namespace UrlPath

/-- The text of a path. -/
def render : UrlPath → String
  | verbatim text => text
  | segments list => String.join (list.map ("/" ++ ·))

end UrlPath

namespace Url

/-- The host of an address. -/
def host? (url : Url) : Option Host :=
  url.authority.bind (·.host)

/-- What stands between the scheme and the path.  Without an authority a path that starts with
an empty segment would be taken for one, so a dot segment goes in front of it. -/
def renderAuthority (url : Url) : String :=
  match url.authority with
  | some authority => "//" ++ authority.render
  | none =>
    match url.path with
    | .segments ("" :: _ :: _) => "/."
    | _ => ""

/-- The part that a request for the address names: path and query. -/
def target (url : Url) : String :=
  url.path.render ++ (url.query.map ("?" ++ ·)).getD ""

/-- The text of an address. -/
def render (url : Url) : String :=
  url.scheme ++ ":" ++ url.renderAuthority ++ url.target
    ++ (url.fragment.map ("#" ++ ·)).getD ""

end Url

end ChainIdentity
