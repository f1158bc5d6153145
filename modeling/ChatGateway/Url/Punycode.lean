/-!
Punycode: labels outside ASCII as letters, digits and hyphens. The basic characters come first; then
each other character follows, from the lowest code point up, as the distance to its place.
-/

namespace ChatGateway.Url.Punycode

/-- The value of the digit `c`: letters come before digits. -/
def digit? (c : Char) : Option Nat :=
  if 'a' ≤ c ∧ c ≤ 'z' then some (c.toNat - 97)
  else if 'A' ≤ c ∧ c ≤ 'Z' then some (c.toNat - 65)
  else if c.isDigit then some (c.toNat - 22)
  else none

/-- The digit with a value below 36. -/
def digit (n : Nat) : Char :=
  if n < 26 then Char.ofNat (97 + n) else Char.ofNat (22 + n)

/-- The value from which on a digit at the place `k` is not the last of its number. -/
def threshold (k bias : Nat) : Nat :=
  if k ≤ bias then 1 else if bias + 26 ≤ k then 26 else k - bias

/-- Scales a distance down; `k` grows with each step. -/
def settle (delta k : Nat) : Nat :=
  if 455 < delta then settle (delta / 35) (k + 36) else k + 36 * delta / (delta + 38)
termination_by delta
decreasing_by omega

/-- The bias after a distance among `points` characters. -/
def adapt (delta points : Nat) (isFirst : Bool) : Nat :=
  let delta := if isFirst then delta / 700 else delta / 2
  settle (delta + delta / points) 0

/-- Reads a number of variable length from the front. -/
def readNumber (bias : Nat) : (k weight acc : Nat) → List Char → Option (Nat × List Char)
  | _, _, _, [] => none
  | k, weight, acc, c :: rest => do
    let d ← digit? c
    let acc := acc + d * weight
    let t := threshold k bias
    if d < t then some (acc, rest) else readNumber bias (k + 36) (weight * (36 - t)) acc rest

/-- Reads distances and puts the characters into their places; `fuel` bounds their number. The
first distance is the one read at place zero. -/
def readPlaces : (fuel codePoint place bias : Nat) → List Char → List Char → Option (List Char)
  | 0, _, _, _, _, _ => none
  | _, _, _, _, [], label => some label
  | fuel + 1, codePoint, place, bias, text, label => do
    let (delta, rest) ← readNumber bias 36 1 0 text
    let points := label.length + 1
    let target := place + delta
    let codePoint := codePoint + target / points
    let slot := target % points
    if codePoint.isValidChar then
      readPlaces fuel codePoint (slot + 1) (adapt delta points (place == 0)) rest
        (label.take slot ++ Char.ofNat codePoint :: label.drop slot)
    else none

/-- The basic characters before the last hyphen, and the text after it. -/
def basicPart (text : List Char) : List Char × List Char :=
  match text.reverse.span (· != '-') with
  | (after, _ :: before) => (before.reverse, after.reverse)
  | (_, []) => ([], text)

/-- The label that an encoded text stands for. -/
def decode? (text : List Char) : Option (List Char) :=
  let (basic, rest) := basicPart text
  if basic.all (·.toNat < 128) then readPlaces (rest.length + 1) 128 0 72 rest basic else none

theorem threshold_bounds (k bias : Nat) : 1 ≤ threshold k bias ∧ threshold k bias ≤ 26 := by
  simp only [threshold]
  split
  · omega
  · split <;> omega

def writeNumber (n k bias : Nat) : List Char :=
  let t := threshold k bias
  if n < t then [digit n]
  else digit (t + (n - t) % (36 - t)) :: writeNumber ((n - t) / (36 - t)) (k + 36) bias
termination_by n
decreasing_by
  have bounds := threshold_bounds k bias
  have := Nat.div_le_self (n - threshold k bias) (36 - threshold k bias)
  omega

/-- Where the writer stands: the distance so far, the bias, the number of characters written, and
the text written, last part first. -/
structure Writer where
  delta : Nat
  bias : Nat
  handled : Nat
  basic : Nat
  written : List (List Char)

/-- Writes all places of one code point. -/
def Writer.places (codePoint : Nat) (w : Writer) (c : Char) : Writer :=
  if c.toNat < codePoint then { w with delta := w.delta + 1 }
  else if c.toNat = codePoint then
    { w with
      delta := 0
      bias := adapt w.delta (w.handled + 1) (w.handled == w.basic)
      handled := w.handled + 1
      written := writeNumber w.delta 36 w.bias :: w.written }
  else w

/-- Writes the places of the code points of a label in rising order, from `current` on. -/
def Writer.points (label : List Char) : (current : Nat) → Writer → List Nat → Writer
  | _, w, [] => w
  | current, w, codePoint :: rest =>
    let start := { w with delta := w.delta + (codePoint - current) * (w.handled + 1) }
    let done := label.foldl (Writer.places codePoint) start
    Writer.points label (codePoint + 1) { done with delta := done.delta + 1 } rest

def encode (label : List Char) : List Char :=
  let basic := label.filter (·.toNat < 128)
  let others := ((label.map Char.toNat).filter (128 ≤ ·)).eraseDups.mergeSort
  let start : Writer := ⟨0, 72, basic.length, basic.length, []⟩
  let written := (Writer.points label 128 start others).written.reverse.flatten
  if basic.isEmpty then written else basic ++ '-' :: written

end ChatGateway.Url.Punycode
