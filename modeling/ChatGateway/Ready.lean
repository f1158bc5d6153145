import ChatGateway.Keyed
import ChatGateway.Presence
import ChatGateway.PrivateChannel
import ChatGateway.Settings

/-!
The initial state of a session, which the gateway sends once the session is identified.
`Ready.decode` checks a payload, reads it, compares the protocol version with the expected one, and
logs what it found and how long that took.
-/

namespace ChatGateway

/-- The application that a session belongs to. -/
def Application.form : Form := .record [
  ⟨"id", "id", .plain⟩,
  ⟨"flags", "flags", FlagTable.application.form⟩]

/-- A guild that is announced and not loaded yet. -/
def Guild.form : Form := .record [
  ⟨"id", "id", .plain⟩,
  ⟨"unavailable", "unavailable", .orElse .plain (.bool false)⟩]

/-- The times, in milliseconds, at which a run is started and finished. -/
structure Clock where
  started : Int
  finished : Int

namespace Clock

def elapsed (clock : Clock) : Value := .number (.ofInt (clock.finished - clock.started))

end Clock

namespace Ready

/-- Presences under the identifiers of their users. -/
def presences : Form := Keyed.form Presence.form (fun presence => (presence.get "user").get "id")
  "presences"

def privateChannels : Form := Keyed.form PrivateChannel.form (·.get "id") "private_channels"

/-- The initial state of a session. `shard` holds the number of the shard and the number of shards,
`trace` the servers that took part in the identification. -/
def form : Form := .record [
  ⟨"application", "application", Application.form⟩,
  ⟨"guilds", "guilds", .list Guild.form⟩,
  ⟨"presences", "presences", presences⟩,
  ⟨"private_channels", "privateChannels", privateChannels⟩,
  ⟨"session_id", "sessionId", .plain⟩,
  ⟨"shard", "shard", .optional⟩,
  ⟨"_trace", "trace", .orElse .elements (.list [])⟩,
  ⟨"user", "user", CurrentUser.form⟩,
  ⟨"v", "version", .plain⟩]

/-- The entry that sums up a state that was read. -/
def summary (ready : Value) (context : Option Context) : Entry :=
  ⟨.debug, "Decoded ready payload", some (Context.extend context [
    ("operation", .text "decode"),
    ("userId", (ready.get "user").get "id"),
    ("metadata", .record [
      ("guilds", .ofNat (ready.get "guilds").count),
      ("presences", .ofNat (ready.get "presences").count),
      ("privateChannels", .ofNat (ready.get "privateChannels").count)])])⟩

/-- The protocol version that a caller expects, the configured one if the caller names none. -/
def expectedVersion (options : Value) (env : Environment) : Except Failure Value :=
  match options.get "expectedVersion" with
  | .absent | .null => .number <$> Settings.loadVersion env
  | version => .ok version

/-- Checks a payload and reads the state in its copy. A version other than the expected one is
logged and is no failure. The options may name the expected version and a context. -/
def decode (payload options : Value) (env : Environment) (clock : Clock) : Traced Value := do
  let given ← Traced.ofExcept (options.field "context")
  let context := some (Context.extend given.ownFields [("component", .text "ReadyCodec")])
  let wire ← Schema.ready.require "ready" payload context
  let ready ← form.read wire context
  let expected ← Traced.ofExcept (expectedVersion options env)
  if ready.get "version" != expected then
    Traced.write (.versionMismatch expected (ready.get "version") context)
  Traced.write (summary ready context)
  Traced.write (.performance "decode_ready" clock.elapsed context)
  return ready

end Ready
end ChatGateway
