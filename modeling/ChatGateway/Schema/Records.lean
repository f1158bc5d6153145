import ChatGateway.OnlineStatus
import ChatGateway.Schema

/-!
The shapes of the gateway's wire records.
-/

namespace ChatGateway.Schema

/-- The identifier of an entity: up to 20 digits. -/
def snowflake : Schema := .text (.digits 20)

def free : Schema := .text .free

/-- The four digits that tell users of one name apart. -/
def discriminator : Schema := .text (.digits 4)

def status : Schema := .text (.oneOf (OnlineStatus.all.map OnlineStatus.text))

def activityButton : Schema := .record [
  ("label", .required, free),
  ("url", .nullable, free)]

def activityAssets : Schema := .record [
  ("large_image", .nullable, free),
  ("large_text", .nullable, free),
  ("small_image", .nullable, free),
  ("small_text", .nullable, free)]

def activityParty : Schema := .record [
  ("id", .nullable, free),
  ("size", .nullable, .pair)]

def activitySecrets : Schema := .record [
  ("join", .nullable, free),
  ("match", .nullable, free),
  ("spectate", .nullable, free)]

def activityEmoji : Schema := .record [
  ("name", .required, free),
  ("id", .nullable, snowflake),
  ("animated", .nullable, .boolean)]

def activityTimestamps : Schema := .record [
  ("start", .nullable, .count),
  ("end", .nullable, .count)]

/-- Any number may stand for the kind of an activity, since later versions may add kinds. -/
def activity : Schema := .record [
  ("application_id", .nullable, snowflake),
  ("assets", .nullable, activityAssets),
  ("details", .nullable, free),
  ("flags", .nullable, .count),
  ("instance", .nullable, .boolean),
  ("type", .optional, .number),
  ("name", .required, free),
  ("party", .nullable, activityParty),
  ("secrets", .nullable, activitySecrets),
  ("state", .nullable, free),
  ("emoji", .nullable, activityEmoji),
  ("timestamps", .nullable, activityTimestamps),
  ("sync_id", .nullable, free),
  ("session_id", .nullable, free),
  ("url", .nullable, .text .uri),
  ("buttons", .nullable, .list (.either free activityButton))]

def clientStatus : Schema := .record [
  ("desktop", .nullable, status),
  ("mobile", .nullable, status),
  ("web", .nullable, status)]

def partialMember : Schema := .record [
  ("nick", .nullable, free),
  ("roles", .required, .list snowflake),
  ("joined_at", .nullable, free),
  ("deaf", .required, .boolean),
  ("mute", .required, .boolean)]

def user : Schema := .record [
  ("id", .required, snowflake),
  ("username", .required, free),
  ("discriminator", .required, discriminator),
  ("bot", .optional, .boolean),
  ("avatar", .nullable, free),
  ("public_flags", .nullable, .count),
  ("banner", .nullable, free),
  ("accent_color", .nullable, .count),
  ("member", .nullable, partialMember)]

def currentUser : Schema := .record [
  ("id", .required, snowflake),
  ("username", .required, free),
  ("discriminator", .required, discriminator),
  ("bot", .optional, .boolean),
  ("avatar", .nullable, free),
  ("email", .nullable, free),
  ("mfa_enabled", .optional, .boolean),
  ("verified", .nullable, .boolean),
  ("public_flags", .nullable, .count),
  ("banner", .nullable, free),
  ("accent_color", .nullable, .count)]

def presenceUser : Schema := .record [
  ("id", .required, snowflake),
  ("avatar", .nullable, free),
  ("bot", .nullable, .boolean),
  ("discriminator", .nullable, discriminator),
  ("email", .nullable, free),
  ("mfa_enabled", .nullable, .boolean),
  ("username", .nullable, free),
  ("verified", .nullable, .boolean),
  ("public_flags", .nullable, .count)]

def presence : Schema := .record [
  ("activities", .optional, .list activity),
  ("client_status", .nullable, clientStatus),
  ("guild_id", .nullable, snowflake),
  ("status", .required, status),
  ("user", .required, presenceUser)]

def partialApplication : Schema := .record [
  ("id", .required, snowflake),
  ("flags", .required, .count)]

def unavailableGuild : Schema := .record [
  ("id", .required, snowflake),
  ("unavailable", .optional, .boolean)]

def privateChannel : Schema := .record [
  ("id", .required, snowflake),
  ("type", .required, .number),
  ("last_message_id", .nullable, snowflake),
  ("last_pin_timestamp", .nullable, free),
  ("recipients", .required, .list user)]

def ready : Schema := .record [
  ("application", .required, partialApplication),
  ("guilds", .required, .list unavailableGuild),
  ("presences", .optional, .list presence),
  ("private_channels", .optional, .list privateChannel),
  ("session_id", .required, free),
  ("shard", .nullable, .pair),
  ("_trace", .optional, .list free),
  ("user", .required, currentUser),
  ("v", .required, .count)]

def sessionStartLimit : Schema := .record [
  ("remaining", .required, .count),
  ("reset_after", .required, .count),
  ("total", .required, .count),
  ("max_concurrency", .required, .count)]

def gateway : Schema := .record [
  ("url", .required, free)]

def botGateway : Schema := .record [
  ("session_start_limit", .required, sessionStartLimit),
  ("shards", .required, .count),
  ("url", .required, free)]

/-- The shapes that callers may check payloads against, by name. -/
def byName : List (String × Schema) := [
  ("activity", activity),
  ("activityButton", activityButton),
  ("presence", presence),
  ("presenceUser", presenceUser),
  ("user", user),
  ("currentUser", currentUser),
  ("ready", ready),
  ("sessionStartLimit", sessionStartLimit),
  ("gateway", gateway),
  ("botGateway", botGateway)]

end ChatGateway.Schema
