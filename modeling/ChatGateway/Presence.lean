import ChatGateway.Activity
import ChatGateway.User

/-!
Presences: the status and activities of a user.
-/

namespace ChatGateway.Presence

/-- The status on each platform, absent where the user is not active. -/
def clientStatus : List Field := [
  ⟨"desktop", "desktop", .optional⟩,
  ⟨"mobile", "mobile", .optional⟩,
  ⟨"web", "web", .optional⟩]

def fields : List Field := [
  ⟨"activities", "activities", .orElse (.list Activity.form) (.list [])⟩,
  ⟨"client_status", "clientStatus", .part clientStatus⟩,
  ⟨"guild_id", "guildId", .optional⟩,
  ⟨"status", "status", .plain⟩,
  ⟨"user", "user", PresenceUser.form⟩]

/-- The status and activities of a user. What is logged inside names the user. -/
def form : Form where
  read wire context := do
    let id ← Traced.ofExcept (do (← wire.field "user").field "id")
    (Form.record fields).read wire (some (Context.extend context [("userId", id)]))
  write := (Form.record fields).write

def decode (payload : Value) (context : Option Context) : Traced Value := do
  form.read (← Schema.presence.require "presence" payload context) context

end ChatGateway.Presence
