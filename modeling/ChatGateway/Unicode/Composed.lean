import ChatGateway.Unicode.CombiningClass
import ChatGateway.Unicode.Decomposition

/-!
The composed form of a text. Texts that differ only in whether letters carry their marks or are
followed by them, and in the order of marks that do not meet, have one composed form: all
characters are taken apart, the marks are put in order, and what can be is put together again.
Syllables of Hangul are taken apart and put together by arithmetic.
-/

namespace ChatGateway.Unicode

namespace Hangul

/-- The first syllable, and the numbers of letters of each kind. The final letters include the
missing one. -/
def firstSyllable : Nat := 0xAC00
def firstInitial : Nat := 0x1100
def firstVowel : Nat := 0x1161
def firstFinal : Nat := 0x11A7
def initials : Nat := 19
def vowels : Nat := 21
def finals : Nat := 28

def isSyllable (n : Nat) : Bool :=
  firstSyllable ≤ n && n < firstSyllable + initials * vowels * finals

def decompose (n : Nat) : List Nat :=
  let i := n - firstSyllable
  let letters := [firstInitial + i / (vowels * finals), firstVowel + i / finals % vowels]
  if i % finals = 0 then letters else letters ++ [firstFinal + i % finals]

/-- The syllable of an initial letter and a vowel, or of an open syllable and a final letter. -/
def compose? (a b : Nat) : Option Nat :=
  if firstInitial ≤ a ∧ a < firstInitial + initials ∧ firstVowel ≤ b ∧ b < firstVowel + vowels then
    some (firstSyllable + ((a - firstInitial) * vowels + (b - firstVowel)) * finals)
  else if isSyllable a ∧ (a - firstSyllable) % finals = 0 ∧ firstFinal < b ∧ b < firstFinal + finals
  then some (a + (b - firstFinal))
  else none

end Hangul

/-- Takes a character apart; `depth` bounds the steps. -/
def decomposeWithin : (depth : Nat) → Nat → List Nat
  | 0, n => [n]
  | depth + 1, n =>
    match Span.find? decompositions n with
    | some span =>
      match span.imageOf n with
      | first :: marks => decomposeWithin depth first ++ marks
      | [] => []
    | none => [n]

/-- Takes a character apart. No character takes more than four steps. -/
def decompose (n : Nat) : List Nat :=
  if n < 0xC0 then [n]
  else if Hangul.isSyllable n then Hangul.decompose n
  else decomposeWithin 4 n

/-- Puts a character in front of an ordered text; a mark moves behind marks of lower classes. -/
def place (n : Nat) : List Nat → List Nat
  | [] => [n]
  | m :: rest =>
    if combiningClass m ≠ 0 ∧ combiningClass m < combiningClass n then m :: place n rest
    else n :: m :: rest

/-- The text with its marks in order. -/
def ordered (text : List Nat) : List Nat :=
  text.foldr place []

/-- The character that a character and the one after it make up. -/
def compose? (a b : Nat) : Option Nat :=
  if b < 0x300 then none
  else
    match Hangul.compose? a b with
    | some syllable => some syllable
    | none =>
      (decompositions.find? fun span =>
        span.image == [a, b] && !Span.covers uncomposed span.first).map (·.first)

/-- Puts a text together. `marks` are the characters since `starter`, last first, that did not
become part of it; a mark is kept from it by marks of its own or a higher class between them. -/
def composeFrom (starter : Nat) (marks : List Nat) : List Nat → List Nat
  | [] => starter :: marks.reverse
  | n :: rest =>
    let hidden := match marks with
      | [] => false
      | mark :: _ => combiningClass n ≤ combiningClass mark
    match if hidden then none else compose? starter n with
    | some composed => composeFrom composed marks rest
    | none =>
      if combiningClass n = 0 then starter :: marks.reverse ++ composeFrom n [] rest
      else composeFrom starter (n :: marks) rest

def composed (text : List Char) : List Char :=
  match ordered (text.flatMap fun c => decompose c.toNat) with
  | [] => []
  | first :: rest => (composeFrom first [] rest).map Char.ofNat

end ChatGateway.Unicode
