import ChatGateway.Form
import ChatGateway.Schema.Records
import ChatGateway.Validation

/-!
What the gateway endpoints answer: the address to connect to and, for bots, how many sessions may
be started.
-/

namespace ChatGateway

namespace Gateway

def form : Form := .record [⟨"url", "url", .plain⟩]

def decode (payload : Value) (context : Option Context) : Traced Value := do
  form.read (← Schema.gateway.require "gateway" payload context) context

end Gateway

namespace SessionStartLimit

/-- How many sessions may still be started in the current window, the milliseconds until the window
ends, and the identifications allowed in five seconds. -/
def form : Form := .record [
  ⟨"remaining", "remaining", .plain⟩,
  ⟨"reset_after", "resetAfter", .plain⟩,
  ⟨"total", "total", .plain⟩,
  ⟨"max_concurrency", "maxConcurrency", .plain⟩]

def decode (payload : Value) (context : Option Context) : Traced Value := do
  form.read (← Schema.sessionStartLimit.require "session_start_limit" payload context) context

end SessionStartLimit

namespace BotGateway

/-- The answer of the gateway endpoint for bots. -/
def form : Form := .record [
  ⟨"session_start_limit", "sessionStartLimit", SessionStartLimit.form⟩,
  ⟨"shards", "shards", .plain⟩,
  ⟨"url", "url", .plain⟩]

def decode (payload : Value) (context : Option Context) : Traced Value := do
  form.read (← Schema.botGateway.require "gateway" payload context) context

end BotGateway
end ChatGateway
