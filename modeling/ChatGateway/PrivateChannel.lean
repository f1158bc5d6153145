import ChatGateway.Enumeration
import ChatGateway.User

/-!
Private channels: direct messages and group conversations.
-/

namespace ChatGateway

namespace ChannelKind

def text : Number := 0
def direct : Number := 1
def voice : Number := 2
def group : Number := 3
def category : Number := 4
def news : Number := 5

/-- A code of a later version of the service; it is never sent. -/
def unknown : Number := .ofInt (-1)

end ChannelKind

def channelKinds : Enumeration where
  name := "ChannelType"
  first := ChannelKind.text
  others := [ChannelKind.direct, ChannelKind.voice, ChannelKind.group, ChannelKind.category,
    ChannelKind.news]
  unknown := ChannelKind.unknown

def PrivateChannel.form : Form := .record [
  ⟨"id", "id", .plain⟩,
  ⟨"type", "kind", channelKinds.form "type"⟩,
  ⟨"last_message_id", "lastMessageId", .optional⟩,
  ⟨"last_pin_timestamp", "lastPinTimestamp", .optional⟩,
  ⟨"recipients", "recipients", .list User.form⟩]

end ChatGateway
