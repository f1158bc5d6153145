import ChatGateway.Discriminator
import ChatGateway.Flags.Tables
import ChatGateway.Flags.Wire
import ChatGateway.Schema.Records
import ChatGateway.Validation

/-!
Users: the canonical record, the account of a session, and the partial record inside a presence.
-/

namespace ChatGateway

/-- What a guild knows about a user. -/
def Member.fields : List Field := [
  ⟨"nick", "nick", .optional⟩,
  ⟨"roles", "roles", .elements⟩,
  ⟨"joined_at", "joinedAt", .optional⟩,
  ⟨"deaf", "deaf", .plain⟩,
  ⟨"mute", "mute", .plain⟩]

namespace User

def form : Form := .record [
  ⟨"id", "id", .plain⟩,
  ⟨"username", "name", .plain⟩,
  ⟨"discriminator", "discriminator", Discriminator.form "discriminator"⟩,
  ⟨"bot", "bot", .orElse .plain (.bool false)⟩,
  ⟨"avatar", "avatar", .optional⟩,
  ⟨"public_flags", "publicFlags", FlagTable.userPublic.optionalForm⟩,
  ⟨"banner", "banner", .optional⟩,
  ⟨"accent_color", "accentColor", .optional⟩,
  ⟨"member", "member", .part Member.fields⟩]

def decode (payload : Value) (context : Option Context) : Traced Value := do
  form.read (← Schema.user.require "user" payload context) context

end User

namespace CurrentUser

/-- The account that a session is authenticated as. -/
def form : Form := .record [
  ⟨"id", "id", .plain⟩,
  ⟨"username", "name", .plain⟩,
  ⟨"discriminator", "discriminator", Discriminator.form "discriminator"⟩,
  ⟨"bot", "bot", .orElse .plain (.bool false)⟩,
  ⟨"avatar", "avatar", .optional⟩,
  ⟨"email", "email", .optional⟩,
  ⟨"mfa_enabled", "mfaEnabled", .orElse .plain (.bool false)⟩,
  ⟨"verified", "verified", .optional⟩,
  ⟨"public_flags", "publicFlags", FlagTable.userPublic.optionalForm⟩,
  ⟨"banner", "banner", .optional⟩,
  ⟨"accent_color", "accentColor", .optional⟩]

def decode (payload : Value) (context : Option Context) : Traced Value := do
  form.read (← Schema.currentUser.require "user" payload context) context

end CurrentUser

namespace PresenceUser

/-- The user inside a presence. An update carries only what changed, so all but the identifier may
be missing. -/
def form : Form := .record [
  ⟨"id", "id", .plain⟩,
  ⟨"avatar", "avatar", .optional⟩,
  ⟨"bot", "bot", .optional⟩,
  ⟨"discriminator", "discriminator", Discriminator.optionalForm "discriminator"⟩,
  ⟨"email", "email", .optional⟩,
  ⟨"mfa_enabled", "mfaEnabled", .optional⟩,
  ⟨"username", "name", .optional⟩,
  ⟨"verified", "verified", .optional⟩,
  ⟨"public_flags", "publicFlags", FlagTable.userPublic.optionalForm⟩]

def decode (payload : Value) (context : Option Context) : Traced Value := do
  form.read (← Schema.presenceUser.require "user" payload context) context

end PresenceUser
end ChatGateway
