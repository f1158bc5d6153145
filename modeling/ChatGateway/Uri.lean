import ChatGateway.Cut
import ChatGateway.Digits

/-!
Recognising absolute URIs: a scheme, then an authority and a path, or a path alone, then an optional
query and fragment. The check is generous where the generic syntax is strict: a percent sign needs
no digits after it, and a scheme may hold a comma. It is strict in one place: `http` and `https`
need an authority.
-/

namespace ChatGateway.Uri

def isWord (c : Char) : Bool :=
  c.isAlphanum || c == '_'

def isName (c : Char) : Bool :=
  isWord c || "-.~%!$&'()*+,;=".toList.contains c

def isSegment (c : Char) : Bool :=
  isName c || c == ':' || c == '@'

def isPath (c : Char) : Bool :=
  isSegment c || c == '/'

def isTail (c : Char) : Bool :=
  isPath c || c == '?'

def isScheme (c : Char) : Bool :=
  c.isAlphanum || "+,-.".toList.contains c

/-- A decimal octet of up to three digits. -/
def isOctet (digits : List Char) : Bool :=
  !digits.isEmpty && digits.length ≤ 3 && digits.all Char.isDigit &&
    Digits.decimal digits ≤ 255

def isDotted (text : List Char) : Bool :=
  let octets := Cut.split (· == '.') text
  octets.length == 4 && octets.all isOctet

def isGroup (text : List Char) : Bool :=
  !text.isEmpty && text.length ≤ 4 && text.all Digits.isHex

/-- The number of 16-bit groups that a list of parts stands for, if all of them are well formed.
Four dotted octets count as two groups and may only come last. -/
def groupCount? : List (List Char) → Option Nat
  | [] => some 0
  | [last] => if isGroup last then some 1 else if isDotted last then some 2 else none
  | part :: rest => if isGroup part then (groupCount? rest).map (· + 1) else none

/-- The parts between colons; an empty text has none. -/
def groups (text : List Char) : List (List Char) :=
  if text.isEmpty then [] else Cut.split (· == ':') text

/-- A version 6 address: eight groups, or at most seven around one double colon. -/
def isAddress6 (text : List Char) : Bool :=
  match Cut.doubleColon text with
  | none => groupCount? (groups text) == some 8
  | some (before, after) =>
    let left := groups before
    left.all isGroup && match groupCount? (groups after) with
      | some right => left.length + right ≤ 7
      | none => false

/-- An address of a later version: `v`, a hexadecimal version, a dot, and the address. -/
def isFutureAddress (text : List Char) : Bool :=
  match text with
  | 'v' :: rest =>
    match Cut.first '.' rest with
    | (version, some address) =>
      !version.isEmpty && version.all Digits.isHex && !address.isEmpty &&
        address.all fun c => (isName c && c != '%') || c == ':'
    | (_, none) => false
  | _ => false

/-- Nothing, or a colon and any number of digits. -/
def isService (text : List Char) : Bool :=
  match text with
  | [] => true
  | ':' :: digits => digits.all Char.isDigit
  | _ => false

/-- A host and an optional service number. -/
def isHostService (text : List Char) : Bool :=
  match text with
  | '[' :: rest =>
    match Cut.first ']' rest with
    | (address, some service) =>
      (isAddress6 address || isFutureAddress address) && isService service
    | (_, none) => false
  | _ =>
    let name := text.takeWhile (· != ':')
    !name.isEmpty && name.length ≤ 255 && name.all isName && isService (text.dropWhile (· != ':'))

/-- Optional user information, a host and an optional service number. -/
def isAuthority (text : List Char) : Bool :=
  match Cut.first '@' text with
  | (host, none) => isHostService host
  | (user, some host) => (user.all fun c => isName c || c == ':') && isHostService host

/-- A path whose first segment is not empty. -/
def isRootless (text : List Char) : Bool :=
  (text.head?.map isSegment).getD false && text.all isPath

/-- What stands between the scheme and the query: an authority and a path, or a path alone. -/
def isHierarchy (text : List Char) : Bool :=
  match text with
  | '/' :: '/' :: '/' :: rest => rest.all isPath
  | '/' :: '/' :: rest =>
    isAuthority (rest.takeWhile (· != '/')) && (rest.dropWhile (· != '/')).all isPath
  | '/' :: rest => rest.isEmpty || isRootless rest
  | rest => isRootless rest

def needsAuthority (scheme : List Char) : Bool :=
  scheme == "http".toList || scheme == "https".toList

/-- Two slashes, and not a third. -/
def startsAuthority : List Char → Bool
  | '/' :: '/' :: '/' :: _ => false
  | '/' :: '/' :: _ => true
  | _ => false

def accepts (text : String) : Bool :=
  match Cut.first ':' text.toList with
  | (_, none) => false
  | (scheme, some rest) =>
    let (beforeFragment, fragment) := Cut.first '#' rest
    let (hierarchy, query) := Cut.first '?' beforeFragment
    (scheme.head?.map Char.isAlpha).getD false && scheme.all isScheme &&
      (!needsAuthority scheme || startsAuthority rest) &&
      isHierarchy hierarchy && (query.getD []).all isTail && (fragment.getD []).all isTail

end ChatGateway.Uri
