import ChatGateway.Cut
import ChatGateway.Digits

/-!
Tables of characters. A table lists spans of code points in hexadecimal: `41-5A` is a run of
neighbours and `100~12E` takes every second one. After an equals sign stands what the first
character has for its image, and the images of the others follow on; commas stand between the
images of neighbours that are listed one by one, and dots between the code points of one image.
-/

namespace ChatGateway.Unicode

/-- Code points from `first` to `last`, each `step` places after the one before it. -/
structure Span where
  first : Nat
  last : Nat
  step : Nat
  /-- The image of the first code point. -/
  image : List Nat
  deriving DecidableEq

namespace Span

/-- The code point belongs to the span. -/
def holds (s : Span) (n : Nat) : Bool :=
  s.first ≤ n && n ≤ s.last && (n - s.first) % s.step == 0

/-- The image of a code point of the span, as far from that of the first one as the code point is
from the first. -/
def imageOf (s : Span) (n : Nat) : List Nat :=
  s.image.map (· + (n - s.first))

/-- The span of a table that a code point belongs to. -/
def find? (table : List Span) (n : Nat) : Option Span :=
  table.find? (·.holds n)

/-- A code point belongs to a span of the table. -/
def covers (table : List Span) (n : Nat) : Bool :=
  table.any (·.holds n)

def codePoint (digits : List Char) : Nat :=
  Digits.value 16 digits

def codePoints (text : List Char) : List Nat :=
  (Cut.split (· == '.') text).map codePoint

/-- The first and last code point of an entry and their distance. -/
def ends (text : List Char) : Nat × Nat × Nat :=
  match Cut.first '-' text with
  | (first, some last) => (codePoint first, codePoint last, 1)
  | (_, none) =>
    match Cut.first '~' text with
    | (first, some last) => (codePoint first, codePoint last, 2)
    | (single, none) => (codePoint single, codePoint single, 1)

def ofEntry (entry : List Char) : List Span :=
  let (place, images) := Cut.first '=' entry
  let (first, last, step) := ends place
  match images.map (Cut.split (· == ',')) with
  | none => [⟨first, last, step, []⟩]
  | some [image] => [⟨first, last, step, codePoints image⟩]
  | some images => images.zipIdx.map fun (image, i) => ⟨first + i, first + i, 1, codePoints image⟩

def parse (text : String) : List Span :=
  ((Cut.split (fun c => c == ' ' || c == '\n') text.toList).filter (! ·.isEmpty)).flatMap ofEntry

end Span
end ChatGateway.Unicode
