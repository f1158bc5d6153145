import ChatGateway.Url.Address
import ChatGateway.Url.Domain
import ChatGateway.Url.Encoding

/-!
Absolute links and their parts.
-/

namespace ChatGateway

namespace Url

/-- The host of a link. -/
inductive Host where
  | domain (name : String)
  | address4 (value : Nat)
  | address6 (groups : List Nat)
  /-- A host of a scheme that gives hosts no meaning of its own, or an empty one. -/
  | verbatim (text : String)
  deriving DecidableEq

/-- The path of a link. -/
inductive Route where
  /-- A path that starts with no slash and is not divided. -/
  | rootless (text : String)
  | segments (parts : List String)
  deriving DecidableEq

end Url

/-- An absolute link. -/
structure Url where
  scheme : String
  user : String := ""
  password : String := ""
  host : Option Url.Host := none
  /-- The number of the service at the host, unless it is that of the scheme. -/
  service : Option Nat := none
  route : Url.Route
  query : Option String := none
  fragment : Option String := none
  deriving DecidableEq

namespace Url

/-- The schemes whose links always have a host, with the service numbers they imply. -/
def specialSchemes : List (String × Option Nat) := [
  ("ftp", some 21), ("file", none), ("http", some 80), ("https", some 443), ("ws", some 80),
  ("wss", some 443)]

def isSpecial (scheme : String) : Bool :=
  (specialSchemes.lookup scheme).isSome

/-- The service number that links of a scheme need not name. -/
def defaultService? (scheme : String) : Option Nat :=
  (specialSchemes.lookup scheme).join

def Host.text : Host → String
  | .domain name => name
  | .address4 value => text4 value
  | .address6 groups => "[" ++ text6 groups ++ "]"
  | .verbatim text => text

def credentials (url : Url) : String :=
  if url.user.isEmpty && url.password.isEmpty then ""
  else url.user ++ (if url.password.isEmpty then "" else ":" ++ url.password) ++ "@"

/-- The host with what belongs to it. A path that would be taken for a host is set apart. -/
def authority (url : Url) : String :=
  match url.host with
  | some host =>
    "//" ++ url.credentials ++ host.text ++
      ((url.service.map fun number => ":" ++ toString number).getD "")
  | none =>
    match url.route with
    | .segments ("" :: _ :: _) => "/."
    | _ => ""

def Route.text : Route → String
  | .rootless text => text
  | .segments parts => String.join (parts.map ("/" ++ ·))

def href (url : Url) : String :=
  url.scheme ++ ":" ++ url.authority ++ url.route.text ++
    ((url.query.map ("?" ++ ·)).getD "") ++ ((url.fragment.map ("#" ++ ·)).getD "")

end Url
end ChatGateway
