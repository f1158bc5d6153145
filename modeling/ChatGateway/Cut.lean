/-!
Cutting texts at separators.
-/

namespace ChatGateway.Cut

/-- The parts of a text between the characters that separate. There is always one. -/
def split (separates : Char → Bool) : List Char → List (List Char)
  | [] => [[]]
  | c :: rest =>
    if separates c then [] :: split separates rest
    else
      match split separates rest with
      | part :: parts => (c :: part) :: parts
      | [] => [[c]]

/-- The text before the first `separator` and, if there is one, the text after it. -/
def first (separator : Char) : List Char → List Char × Option (List Char)
  | [] => ([], none)
  | c :: rest =>
    if c = separator then ([], some rest)
    else (c :: (first separator rest).1, (first separator rest).2)

/-- The text before the last `separator`, if there is one, and the text after it. -/
def last (separator : Char) (text : List Char) : Option (List Char) × List Char :=
  match first separator text.reverse with
  | (after, none) => (none, after.reverse)
  | (after, some before) => (some before.reverse, after.reverse)

/-- The text before the first double colon and the text after it. -/
def doubleColon : List Char → Option (List Char × List Char)
  | ':' :: ':' :: rest => some ([], rest)
  | c :: rest => (doubleColon rest).map fun (before, after) => (c :: before, after)
  | [] => none

end ChatGateway.Cut
