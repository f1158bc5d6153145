import ChatGateway.User

/-!
Between partial and canonical users. A partial user that knows enough stands for a canonical one,
and a canonical one refreshes a partial one that is kept.
-/

namespace ChatGateway

/-- What can be done with a partial user that is kept. -/
inductive ViewStep where
  /-- Asks for the canonical user. -/
  | project
  /-- Asks for the wire form. -/
  | encode
  | update (user : Value)
  /-- Updates with the user in a payload, if the payload is accepted. -/
  | updateFromWire (payload : Value)
  /-- Updates with the canonical user it stands for itself, after changes to that. -/
  | updateSelf (changes : Value)

namespace PresenceUser

/-- The canonical user that a partial one stands for, if it knows whether the user is a bot, the
discriminator and the name. -/
def toUser (view : Value) : Except Failure Value := do
  match ← view.field "bot", view.get "discriminator", view.get "name" with
  | .absent, _, _ | _, .absent, _ | _, _, .absent => return .absent
  | bot, discriminator, name => return .record [
      ("id", view.get "id"),
      ("name", name),
      ("discriminator", discriminator),
      ("bot", bot),
      ("avatar", view.get "avatar"),
      ("publicFlags", view.get "publicFlags")]

/-- The fields of a partial user that a canonical one sets. An avatar or flags that the canonical
one lacks stay as they are. -/
def updates (user : Value) : List (String × Value) :=
  let known (name : String) : List (String × Value) :=
    match user.get name with
    | .absent => []
    | value => [(name, value)]
  [("id", user.get "id")] ++ known "avatar" ++ [
    ("bot", user.get "bot"),
    ("discriminator", user.get "discriminator"),
    ("name", user.get "name")] ++ known "publicFlags"

/-- The partial user refreshed with a canonical one. Values of other kinds than records show nothing
of it, and simple ones refuse it. -/
def updateWith (view user : Value) : Except Failure Value := do
  let _ ← user.field "id"
  match view with
  | .record fields => return .record (Fields.setAll fields (updates user))
  | .list _ | .flags _ | .map _ | .error .. => return view
  | _ => .error .unsuited

/-- Takes one step that changes the view or asks something of it: the answer and the new view. -/
def take (view : Value) : ViewStep → Traced (Value × Value)
  | .project => do return (← Traced.ofExcept (toUser view), view)
  | .encode => do return (← Traced.ofExcept (form.write view), view)
  | .update user => do return (.absent, ← Traced.ofExcept (updateWith view user))
  | .updateFromWire payload => do
    let user ← User.decode payload none
    return (.absent, ← Traced.ofExcept (updateWith view user))
  | .updateSelf changes => do
    match ← Traced.ofExcept (toUser view) with
    | .record user =>
      let changed := Value.record (Fields.setAll user changes.ownFields)
      return (.absent, ← Traced.ofExcept (updateWith view changed))
    | _ => return (.absent, view)

/-- Takes one step: its answer and the partial user kept after it. A step that fails leaves the
view as it is. -/
def step (view : Value) (step : ViewStep) : Traced Value × Value :=
  let taken := take view step
  (Prod.fst <$> taken, (taken.outcome.map Prod.snd).toOption.getD view)

/-- Takes steps in order; each answer comes with the partial user kept after it. -/
def run (view : Value) : List ViewStep → List (Traced Value × Value)
  | [] => []
  | first :: rest =>
    let taken := step view first
    taken :: run taken.2 rest

end PresenceUser
end ChatGateway
