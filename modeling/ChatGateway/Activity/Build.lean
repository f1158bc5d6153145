import ChatGateway.Activity
import ChatGateway.Url.Reader

/-!
The activities that a client may show in its own presence.
-/

namespace ChatGateway.Activity

/-- An activity of a kind with a name and `more` fields. -/
def named (kind : Number) (name : Value) (more : List (String × Value)) : Value :=
  .record ([("name", name), ("kind", .number kind), ("buttons", .list [])] ++ more)

def playing (name : Value) : Value := named ActivityKind.playing name []

def listening (name : Value) : Value := named ActivityKind.listening name []

def watching (name : Value) : Value := named ActivityKind.watching name []

def competing (name : Value) : Value := named ActivityKind.competing name []

/-- A stream at a link, which has to be absolute and is put into its plain form. -/
def streaming (name url : Value) : Except Failure Value := do
  match Url.ofText? (← url.sentence) with
  | some link => return named ActivityKind.streaming name [("url", .text link.href)]
  | none => .error .invalidUrl

/-- A status in the user's own words. -/
def custom (state emoji : Value) : Value :=
  named ActivityKind.custom (.text "Custom Status")
    (("state", state) :: if emoji.isMeaningful then [("emoji", emoji)] else [])

end ChatGateway.Activity
