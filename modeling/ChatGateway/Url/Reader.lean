import ChatGateway.Url

/-!
Reading absolute links. What browsers tolerate is tolerated: blanks around the link, line ends
inside it, backslashes for slashes in special schemes, and dots in paths, which are resolved.
-/

namespace ChatGateway.Url

def isForbiddenInHost (c : Char) : Bool :=
  "\x00\t\n\r #/:<>?@[\\]^|".toList.contains c

/-- Characters that may not stand in a domain name. -/
def isForbiddenInDomain (c : Char) : Bool :=
  isForbiddenInHost c || c.toNat < 0x20 || c == '%' || c.toNat == 0x7F

/-- The host of a scheme that gives hosts no meaning. -/
def verbatimHost? (text : List Char) : Option Host :=
  if text.any isForbiddenInHost then none
  else some (.verbatim (String.ofList (percentEncode encodesControl text)))

/-- The host of a special scheme: a version 4 address if it ends in a number, and else a domain
name. -/
def domainHost? (text : List Char) : Option Host := do
  let decoded ← String.fromUTF8? ⟨(percentDecode text).toArray⟩
  let name ← asciiDomain? decoded.toList
  if name.isEmpty || name.any isForbiddenInDomain then none
  else if endsInNumber name then (address4? name).map .address4
  else some (.domain (String.ofList name))

def host? (special : Bool) (text : List Char) : Option Host :=
  match text with
  | '[' :: rest =>
    if rest.getLast? == some ']' then (address6? rest.dropLast).map .address6 else none
  | _ => if special then domainHost? text else verbatimHost? text

/-- A path is divided at slashes and, in special schemes, at backslashes. -/
def divides (special : Bool) (c : Char) : Bool :=
  c == '/' || (special && c == '\\')

/-- The segment stays where it is. -/
def isDot (segment : List Char) : Bool :=
  [".", "%2e"].contains (String.ofList (segment.map Char.toLower))

/-- The segment leads back. -/
def isDoubleDot (segment : List Char) : Bool :=
  ["..", ".%2e", "%2e.", "%2e%2e"].contains (String.ofList (segment.map Char.toLower))

/-- A letter and a colon or bar, which name a drive. -/
def isDrive : List Char → Bool
  | [letter, mark] => letter.isAlpha && (mark == ':' || mark == '|')
  | _ => false

/-- The path without its last segment; a drive at the start of a file path stays. -/
def leave (file : Bool) (parts : List String) : List String :=
  match parts with
  | [drive] => if file && isDrive drive.toList && drive.endsWith ":" then parts else []
  | _ => parts.dropLast

/-- The segment as it is written; a drive at the start of a file path gets its colon. -/
def segmentText (file : Bool) (parts : List String) (segment : List Char) : String :=
  if file && parts.isEmpty && isDrive segment then String.ofList (segment.take 1 ++ [':'])
  else String.ofList (percentEncode encodesPath segment)

/-- Follows segments from a path on. A dot segment at the end leaves an empty segment; without a
special scheme, one that leads back does so only where there is something to leave. -/
def follow (special file : Bool) (parts : List String) : List (List Char) → List String
  | [] => parts
  | segment :: rest =>
    let parts :=
      if isDoubleDot segment then
        let left := leave file parts
        if rest.isEmpty && (special || !parts.isEmpty) then left ++ [""] else left
      else if isDot segment then if rest.isEmpty then parts ++ [""] else parts
      else parts ++ [segmentText file parts segment]
    follow special file parts rest

/-- What follows the first slash that has a dot right after it. -/
def afterSlashDot : List Char → Option (List Char)
  | '/' :: '.' :: rest => some rest
  | _ :: rest => afterSlashDot rest
  | [] => none

/-- The path is taken as it stands: no character needs another form, and neither its start nor the
first segment that starts with a dot is a dot segment. Dot segments after that one stay. -/
def standsAsIs (text : List Char) : Bool :=
  text.all (fun c => !encodesPath c && c != '%' && c != '\\') && text.head? != some '.' &&
    match afterSlashDot text with
    | none => true
    | some rest => (rest.head?.map fun c => c != '.' && c != '/').getD false

def startsWithDrive (text : List Char) : Bool :=
  isDrive (text.takeWhile (! divides true ·))

/-- The path that a text after the first slash describes. -/
def resolve (special file : Bool) (text : List Char) : Route :=
  if standsAsIs text && !(file && startsWithDrive text) then
    .segments ((Cut.split (· == '/') text).map String.ofList)
  else .segments (follow special file [] (Cut.split (divides special) text))

/-- The text without the slash at its start. -/
def dropSlash (special : Bool) (text : List Char) : List Char :=
  match text with
  | c :: rest => if divides special c then rest else text
  | [] => []

/-- The text of a host and, after a colon outside brackets, that of a service number. -/
def cutService : (bracketed : Bool) → List Char → List Char × Option (List Char)
  | _, [] => ([], none)
  | bracketed, c :: rest =>
    if c = ':' ∧ !bracketed then ([], some rest)
    else
      let inside := if c = '[' then true else if c = ']' then false else bracketed
      (c :: (cutService inside rest).1, (cutService inside rest).2)

/-- The service number that a text names. No digits and the number that the scheme implies name
none. -/
def service? (scheme : String) (digits : List Char) : Option (Option Nat) :=
  if !digits.all Char.isDigit then none
  else if digits.isEmpty then some none
  else
    let number := Digits.decimal digits
    if 65535 < number then none
    else some (if defaultService? scheme == some number then none else some number)

/-- Reads the text between the slashes and the path: credentials, host and
service number. -/
def withAuthority? (scheme : String) (text : List Char) (route : Route) : Option Url := do
  let (user, hostService) := Cut.last '@' text
  let (hostText, serviceText) := cutService false hostService
  let special := isSpecial scheme
  if hostText.isEmpty && (special || user.isSome || serviceText.isSome) then none
  let host ← host? special hostText
  let service ← service? scheme (serviceText.getD [])
  let (name, password) := Cut.first ':' (user.getD [])
  return {
    scheme
    user := String.ofList (percentEncode encodesUser name)
    password := String.ofList (percentEncode encodesUser (password.getD []))
    host := some host
    service
    route }

/-- Reads the host and the path of a file link after two slashes. -/
def fileWithHost? (text : List Char) : Option Url := do
  let hostText := text.takeWhile (! divides true ·)
  let rest := text.dropWhile (! divides true ·)
  if isDrive hostText then
    return { scheme := "file", host := some (.verbatim ""), route := resolve true true text }
  let host ← if hostText.isEmpty then some (.verbatim "") else host? true hostText
  let host := if host = .domain "localhost" then .verbatim "" else host
  return { scheme := "file", host := some host, route := resolve true true (dropSlash true rest) }

/-- Reads a file link after its scheme. -/
def file? (text : List Char) : Option Url :=
  let plain (path : List Char) : Option Url :=
    some { scheme := "file", host := some (.verbatim ""), route := resolve true true path }
  match text with
  | a :: b :: rest =>
    if divides true a && divides true b then fileWithHost? rest
    else plain (dropSlash true text)
  | _ => plain (dropSlash true text)

/-- Reads what stands between the scheme and the query. -/
def hierarchy? (scheme : String) (text : List Char) : Option Url :=
  if scheme = "file" then file? text
  else if isSpecial scheme then
    let rest := text.dropWhile (divides true)
    withAuthority? scheme (rest.takeWhile (! divides true ·))
      (resolve true false (dropSlash true (rest.dropWhile (! divides true ·))))
  else
    match text with
    | '/' :: '/' :: rest =>
      let path := rest.dropWhile (· != '/')
      withAuthority? scheme (rest.takeWhile (· != '/'))
        (if path.isEmpty then .segments [] else resolve false false (path.drop 1))
    | '/' :: rest => some { scheme, route := resolve false false rest }
    | _ =>
      some { scheme, route := .rootless (String.ofList (percentEncode encodesControl text)) }

/-- The link without blanks and controls around it, and without tabs and line ends. -/
def trim (text : List Char) : List Char :=
  let isOuter (c : Char) : Bool := c.toNat ≤ 0x20
  (((text.dropWhile isOuter).reverse.dropWhile isOuter).reverse).filter fun c =>
    c != '\t' && c != '\n' && c != '\r'

/-- The scheme in front of the first colon, in lower case, and the text after it. -/
def scheme? (text : List Char) : Option (String × List Char) :=
  match Cut.first ':' text with
  | (scheme, some rest) =>
    if (scheme.head?.map Char.isAlpha).getD false &&
        scheme.all fun c => c.isAlphanum || "+-.".toList.contains c
    then some (String.ofList (scheme.map Char.toLower), rest) else none
  | (_, none) => none

/-- The absolute link that a text stands for. -/
def ofText? (text : String) : Option Url := do
  let (scheme, rest) ← scheme? (trim text.toList)
  let (beforeFragment, fragment) := Cut.first '#' rest
  let (hierarchy, query) := Cut.first '?' beforeFragment
  let url ← hierarchy? scheme hierarchy
  let inQuery := if isSpecial scheme then encodesSpecialQuery else encodesQuery
  return { url with
    query := query.map fun query => String.ofList (percentEncode inQuery query)
    fragment := fragment.map fun fragment =>
      String.ofList (percentEncode encodesFragment fragment) }

end ChatGateway.Url
