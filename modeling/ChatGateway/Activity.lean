import ChatGateway.Activity.Buttons
import ChatGateway.Enumeration
import ChatGateway.Flags.Tables
import ChatGateway.Flags.Wire
import ChatGateway.Schema.Records
import ChatGateway.Validation

/-!
Activities: what an account is currently doing, as shown beside its name. `Activity.form` reads and
writes them; `Activity.decode` checks the shape of a payload first.
-/

namespace ChatGateway

namespace ActivityKind

def playing : Number := 0
def streaming : Number := 1
def listening : Number := 2
def watching : Number := 3
def custom : Number := 4
def competing : Number := 5

/-- A code of a later version of the service; it is never sent. -/
def unknown : Number := .ofInt (-1)

end ActivityKind

def activityKinds : Enumeration where
  name := "ActivityType"
  first := ActivityKind.playing
  others := [ActivityKind.streaming, ActivityKind.listening, ActivityKind.watching,
    ActivityKind.custom, ActivityKind.competing]
  unknown := ActivityKind.unknown

namespace Activity

def assets : List Field := [
  ⟨"large_image", "largeImage", .optional⟩,
  ⟨"large_text", "largeText", .optional⟩,
  ⟨"small_image", "smallImage", .optional⟩,
  ⟨"small_text", "smallText", .optional⟩]

/-- The party that an account plays in; `size` holds the current and the largest size. -/
def party : List Field := [
  ⟨"id", "id", .optional⟩,
  ⟨"size", "size", .optional⟩]

def secrets : List Field := [
  ⟨"join", "join", .optional⟩,
  ⟨"match", "match", .optional⟩,
  ⟨"spectate", "spectate", .optional⟩]

def emoji : List Field := [
  ⟨"name", "name", .plain⟩,
  ⟨"id", "id", .optional⟩,
  ⟨"animated", "animated", .optional⟩]

/-- When an activity started and when it ends, in milliseconds since 1970. -/
def timestamps : List Field := [
  ⟨"start", "start", .optional⟩,
  ⟨"end", "end", .optional⟩]

/-- What an account is doing. `instance` says that the activity is an instanced game session. -/
def form : Form := .record [
  ⟨"application_id", "applicationId", .optional⟩,
  ⟨"assets", "assets", .part assets⟩,
  ⟨"details", "details", .optional⟩,
  ⟨"flags", "flags", FlagTable.activity.optionalForm⟩,
  ⟨"instance", "instance", .optional⟩,
  ⟨"type", "kind", activityKinds.optionalForm "type"⟩,
  ⟨"name", "name", .plain⟩,
  ⟨"party", "party", .part party⟩,
  ⟨"secrets", "secrets", .part secrets⟩,
  ⟨"state", "state", .optional⟩,
  ⟨"emoji", "emoji", .part emoji⟩,
  ⟨"timestamps", "timestamps", .part timestamps⟩,
  ⟨"sync_id", "syncId", .optional⟩,
  ⟨"session_id", "sessionId", .optional⟩,
  ⟨"url", "url", .optional⟩,
  ⟨"buttons", "buttons", ActivityButton.form "buttons"⟩]

def decode (payload : Value) (context : Option Context) : Traced Value := do
  form.read (← Schema.activity.require "activity" payload context) context

end Activity
end ChatGateway
