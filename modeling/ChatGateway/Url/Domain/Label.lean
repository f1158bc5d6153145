import ChatGateway.Unicode.CombiningClass
import ChatGateway.Unicode.Direction
import ChatGateway.Unicode.Joining

/-!
Which labels outside ASCII a domain name may have: none that starts with a mark, joins letters that
do not join, or mixes writing directions.
-/

namespace ChatGateway.Url.Label

open Unicode (Direction)

/-- The sign in front of labels outside ASCII. -/
def encodedSign : List Char := "xn--".toList

/-- The label does not start with a mark. -/
def startsPlainly : List Char → Bool
  | [] => false
  | c :: _ => !Unicode.Span.covers Unicode.marks c.toNat

/-- The character takes the vowel from the letter before it. -/
def isVirama (c : Char) : Bool :=
  Unicode.combiningClass c.toNat == Unicode.viramaClass

/-- Invisible joiners and non-joiners stand where they show: after a sign that takes the vowel from
a letter, or, for a non-joiner, between letters that would join. The first of them decides, and
`before` are the characters before it, last first. -/
def joinsWell (before : List Char) : List Char → Bool
  | [] => true
  | c :: rest =>
    let afterVirama := (before.head?.map isVirama).getD false
    if c.toNat = 0x200C then
      afterVirama ||
        (before.any fun d => Unicode.Span.covers Unicode.joinsAfter d.toNat) &&
          rest.any fun d => Unicode.Span.covers Unicode.joinsBefore d.toNat
    else if c.toNat = 0x200D then afterVirama
    else joinsWell (c :: before) rest

/-- The directions of a label without the marks at its end. -/
def directions (label : List Char) : List Direction :=
  ((label.map Direction.ofChar).reverse.dropWhile (· == .mark)).reverse

/-- Letters and numbers that are written from right to left. -/
def runsLeft (direction : Direction) : Bool :=
  direction == .right || direction == .arabicNumber

/-- A label with letters or numbers that are written from right to left keeps one direction. If it
starts with a letter from left to right, all that stands before its last character goes that way;
else it has no such letter, no digits of two kinds, and ends in a letter or digit. -/
def runsOneWay (label : List Char) : Bool :=
  let all := directions label
  if !all.any runsLeft then true
  else if all.head? == some .left then !all.dropLast.any runsLeft
  else
    !all.contains .left &&
      !(all.contains .europeanNumber && all.contains .arabicNumber) &&
      all.getLast? != some .neutral

def hasJoiner (label : List Char) : Bool :=
  label.any fun c => c.toNat == 0x200C || c.toNat == 0x200D

/-- A label may stand in a domain name. One with joiners is judged by them alone. -/
def isValid (label : List Char) : Bool :=
  startsPlainly label && !encodedSign.isPrefixOf label &&
    if hasJoiner label then joinsWell [] label else runsOneWay label

end ChatGateway.Url.Label
