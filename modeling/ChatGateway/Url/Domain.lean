import ChatGateway.Cut
import ChatGateway.Unicode.Composed
import ChatGateway.Url.Domain.Label
import ChatGateway.Url.Domain.Mapping
import ChatGateway.Url.Punycode

/-!
Domain names. Each character is replaced by what it stands for, the name is put into its composed
form, and each label outside ASCII becomes `xn--` and its Punycode form.
-/

namespace ChatGateway.Url

def isAscii (text : List Char) : Bool :=
  text.all (·.toNat < 128)

/-- A decoded label is in the form that an encoded label stands for. -/
def isSettled (label : List Char) : Bool :=
  Mapping.ofName? label == some label && Unicode.composed label == label && Label.isValid label

/-- The ASCII form of one label in composed form. A label with the sign of encoded ones has to be
the encoded form of a label. -/
def asciiLabel? (label : List Char) : Option (List Char) :=
  if Label.encodedSign.isPrefixOf label then
    if isAscii label && (Punycode.decode? (label.drop 4)).any isSettled then some label else none
  else if isAscii label then some label
  else if Label.isValid label then some (Label.encodedSign ++ Punycode.encode label)
  else none

/-- The name with each character replaced by what it stands for, in composed form. -/
def plainName? (name : List Char) : Option (List Char) :=
  if isAscii name then some (name.map Char.toLower)
  else (Mapping.ofName? name).map Unicode.composed

/-- The ASCII form of a domain name. -/
def asciiDomain? (name : List Char) : Option (List Char) := do
  let labels ← (Cut.split (· == '.') (← plainName? name)).mapM asciiLabel?
  return List.intercalate ['.'] labels

end ChatGateway.Url
