import ChatGateway.Flags

/-!
The flag tables of the gateway.
-/

namespace ChatGateway.FlagTable

def bit (i : Nat) : Int := (1 <<< i : Nat)

def activity : FlagTable := ⟨"ActivityFlags", [
  ("INSTANCE", bit 0),
  ("JOIN", bit 1),
  ("SPECTATE", bit 2),
  ("JOIN_REQUEST", bit 3),
  ("SYNC", bit 4),
  ("PLAY", bit 5),
  ("PARTY_PRIVACY_FRIENDS", bit 6),
  ("PARTY_PRIVACY_VOICE_CHANNEL", bit 7),
  ("EMBEDDED", bit 8)]⟩

def userPublic : FlagTable := ⟨"UserPublicFlags", [
  ("DISCORD_EMPLOYEE", bit 0),
  ("PARTNERED_SERVER_OWNER", bit 1),
  ("HYPESQUAD_EVENTS", bit 2),
  ("BUG_HUNTER_LEVEL_1", bit 3),
  ("HOUSE_BRAVERY", bit 6),
  ("HOUSE_BRILLIANCE", bit 7),
  ("HOUSE_BALANCE", bit 8),
  ("EARLY_SUPPORTER", bit 9),
  ("TEAM_USER", bit 10),
  ("SYSTEM", bit 12),
  ("BUG_HUNTER_LEVEL_2", bit 14),
  ("VERIFIED_BOT", bit 16),
  ("EARLY_VERIFIED_BOT_DEVELOPER", bit 17),
  ("DISCORD_CERTIFIED_MODERATOR", bit 18),
  ("BOT_HTTP_INTERACTIONS", bit 19)]⟩

/-- Intents and capabilities granted to an application. -/
def application : FlagTable := ⟨"ApplicationFlags", [
  ("GATEWAY_PRESENCE", bit 12),
  ("GATEWAY_PRESENCE_LIMITED", bit 13),
  ("GATEWAY_GUILD_MEMBERS", bit 14),
  ("GATEWAY_GUILD_MEMBERS_LIMITED", bit 15),
  ("VERIFICATION_PENDING_GUILD_LIMIT", bit 16),
  ("EMBEDDED", bit 17),
  ("GATEWAY_MESSAGE_CONTENT", bit 18),
  ("GATEWAY_MESSAGE_CONTENT_LIMITED", bit 19)]⟩

end ChatGateway.FlagTable
