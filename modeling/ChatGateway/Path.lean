import ChatGateway.Number.Text

/-!
Places inside a value, written the way a reader would: `presences[0].user.id`.
-/

namespace ChatGateway

/-- One step into a value: a field of a record or a position in a list. -/
inductive Segment where
  | key (name : String)
  | index (position : Number)
  deriving DecidableEq

/-- A place inside a value, outermost step first. -/
abbrev Path := List Segment

namespace Path

/-- Writes one more step after the text of those before it. A field is set off by a dot, except
at the very start. -/
def step (text : String) : Segment → String
  | .key name => if text.isEmpty then name else text ++ "." ++ name
  | .index position => text ++ "[" ++ position.text ++ "]"

/-- The text of a place; that of the whole value is empty. -/
def render (path : Path) : String :=
  path.foldl step ""

def field (path : Path) (name : String) : Path :=
  path ++ [.key name]

def item (path : Path) (position : Nat) : Path :=
  path ++ [.index (.ofNat position)]

end Path
end ChatGateway
