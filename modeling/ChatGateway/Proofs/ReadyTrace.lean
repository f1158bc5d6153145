import ChatGateway.Proofs.Trace

/-! The log of an initial state. Decoding an accepted payload writes one list of entries, which the
payload, the expected version and the caller's context determine. -/
namespace ChatGateway

/-- The user that an entry names. -/
def Entry.userId (entry : Entry) : Value :=
  Context.valueOf entry.attributes "userId"

def Activity.trace (activity : Value) (context : Option Context) : List Entry :=
  FlagTable.activity.trace (activity.seen "flags") context ++
    activityKinds.trace (activity.seen "type") context

/-- The entries of a presence, in which its own user is named. -/
def Presence.trace (presence : Value) (context : Option Context) : List Entry :=
  let own := some (Context.ofUser presence context)
  (presence.itemsSeen "activities").flatMap (fun activity => Activity.trace activity own) ++
    FlagTable.userPublic.trace ((presence.seen "user").seen "public_flags") own

def PrivateChannel.trace (channel : Value) (context : Option Context) : List Entry :=
  channelKinds.trace (channel.seen "type") context ++
    (channel.itemsSeen "recipients").flatMap fun recipient =>
      FlagTable.userPublic.trace (recipient.seen "public_flags") context

namespace Ready

/-- How many entries a list has with different texts at the end of the path. -/
def distinctAt (payload : Value) (name : String) (key : List String) : Nat :=
  ((payload.itemsSeen name).map (Value.keyText key)).eraseDups.length

/-- The entry that sums up an accepted payload. -/
def summaryOf (payload : Value) (context : Option Context) : Entry :=
  ⟨.debug, "Decoded ready payload", some (Context.extend context [
    ("operation", .text "decode"),
    ("userId", (payload.seen "user").seen "id"),
    ("metadata", .record [
      ("guilds", .ofNat (payload.itemsSeen "guilds").length),
      ("presences", .ofNat (distinctAt payload "presences" ["user", "id"])),
      ("privateChannels", .ofNat (distinctAt payload "private_channels" ["id"]))])])⟩

/-- The entries of the parts of an initial state. -/
def traceParts (payload : Value) (context : Option Context) : List Entry :=
  FlagTable.application.trace ((payload.seen "application").seen "flags") context ++
    Keyed.trace (Value.keyText ["user", "id"]) (fun presence => Presence.trace presence context)
      (fun id => .duplicateKey "presences" (.text id) context) [] (payload.itemsSeen "presences") ++
    Keyed.trace (Value.keyText ["id"]) (fun channel => PrivateChannel.trace channel context)
      (fun id => .duplicateKey "private_channels" (.text id) context) []
      (payload.itemsSeen "private_channels") ++
    FlagTable.userPublic.trace ((payload.seen "user").seen "public_flags") context

/-- All entries of an accepted payload: those of its parts, one about another version than the
expected one, the summary and the time that it took. -/
def trace (payload expected took : Value) (context : Option Context) : List Entry :=
  traceParts payload context ++
    (if payload.seen "v" != expected then [.versionMismatch expected (payload.seen "v") context]
      else []) ++
    [summaryOf payload context, .performance "decode_ready" took context]

end Ready

namespace Layout
section
variable {context : Option Context} {v : Value}

theorem trace_activity : activity.trace context v = Activity.trace v context := by
  simp [activity, optional, required, trace, traceFields, Atom.trace, Activity.trace]

theorem trace_user :
    user.trace context v = FlagTable.userPublic.trace (v.seen "public_flags") context := by
  simp [user, optional, required, trace, traceFields, Atom.trace]

theorem trace_currentUser :
    currentUser.trace context v = FlagTable.userPublic.trace (v.seen "public_flags") context := by
  simp [currentUser, optional, required, trace, traceFields, Atom.trace]

theorem trace_presenceUser :
    presenceUser.trace context v = FlagTable.userPublic.trace (v.seen "public_flags") context := by
  simp [presenceUser, optional, required, trace, traceFields, Atom.trace]

theorem trace_presence : presence.trace context v = Presence.trace v context := by
  simp [presence, optional, required, trace, traceFields, Atom.trace, Presence.trace,
    trace_activity, trace_presenceUser, Value.itemsSeen]

theorem trace_privateChannel :
    privateChannel.trace context v = PrivateChannel.trace v context := by
  simp [privateChannel, optional, required, trace, traceFields, Atom.trace, PrivateChannel.trace,
    trace_user, Value.itemsSeen]

theorem trace_ready : ready.trace context v = Ready.traceParts v context := by
  simp [ready, optional, required, trace, traceFields, Atom.trace, Ready.traceParts,
    trace_presence, trace_privateChannel, trace_currentUser, Value.itemsSeen]

end
end Layout

namespace Ready
section
variable {payload options ready : Value} {env : Environment} {clock : Clock}

/-- Decoding settles the context and the expected version. -/
theorem settings_of_decode (decoded : (decode payload options env clock).outcome = .ok ready) :
    ∃ given expected, options.field "context" = .ok given ∧
      expectedVersion options env = .ok expected := by
  rw [outcome_decode] at decoded
  cases given : options.field "context" with
  | error failure =>
    rw [given] at decoded
    contradiction
  | ok context =>
    simp only [given, Except.bind] at decoded
    split at decoded
    · contradiction
    · split at decoded
      · contradiction
      · cases version : expectedVersion options env with
        | error failure =>
          rw [version] at decoded
          contradiction
        | ok expected => exact ⟨context, expected, rfl, rfl⟩

theorem summary_entity (context : Option Context) :
    summary (Layout.ready.entity payload) context = summaryOf payload context := by
  have guilds : ((Layout.ready.entity payload).get "guilds").count =
      (payload.itemsSeen "guilds").length := by
    rw [Value.itemsSeen]
    exact List.length_map _
  have kept (item : Layout) (name : String) (key : List String) :
      (Value.map ((lastOfEach (Value.keyText key) (payload.seen name).listed).map
        (Prod.map .text fun x => item.entity x))).count = distinctAt payload name key := by
    rw [distinctAt, Value.itemsSeen, ← keys_lastOfEach, Value.count, List.length_map,
      List.length_map]
  have presences : ((Layout.ready.entity payload).get "presences").count =
      distinctAt payload "presences" ["user", "id"] := kept .presence _ _
  have channels : ((Layout.ready.entity payload).get "privateChannels").count =
      distinctAt payload "private_channels" ["id"] := kept .privateChannel _ _
  rw [summary, summaryOf, guilds, presences, channels]
  rfl

/-- The log of an accepted payload. -/
theorem log_decode {given expected : Value}
    (decoded : (decode payload options env clock).outcome = .ok ready)
    (context : options.field "context" = .ok given)
    (version : expectedVersion options env = .ok expected) :
    (decode payload options env clock).log =
      trace payload expected clock.elapsed (some (contextOf given)) := by
  obtain ⟨checkable, fits, rfl⟩ := accepted_of_decode decoded
  have passed := Schema.require_of_accepts checkable (Schema.check_eq_nil_iff.mpr fits) "ready"
    (some (contextOf given))
  have admitted : Layout.ready.Admits payload := Layout.admits_of_fits fits
  have read : (form.read (Schema.ready.copied payload) (some (contextOf given))).outcome =
      .ok (Layout.ready.entity payload) := Layout.outcome_read rfl admitted _
  have logged : (form.read (Schema.ready.copied payload) (some (contextOf given))).log =
      traceParts payload (some (contextOf given)) :=
    (Layout.log_read rfl admitted _).trans Layout.trace_ready
  have received : (Layout.ready.entity payload).get "version" = payload.seen "v" := rfl
  have start : decode payload options env clock = (do
      let ready ← form.read (Schema.ready.copied payload) (some (contextOf given))
      let expected ← Traced.ofExcept (expectedVersion options env)
      if ready.get "version" != expected then
        Traced.write (.versionMismatch expected (ready.get "version") (some (contextOf given)))
      Traced.write (summary ready (some (contextOf given)))
      Traced.write (.performance "decode_ready" clock.elapsed (some (contextOf given)))
      return ready) := by
    rw [decode, context, Traced.ofExcept_ok_bind]
    change (Schema.ready.require "ready" payload (some (contextOf given)) >>= _) = _
    rw [passed, Traced.result_bind]
    rfl
  rw [start, version, Traced.log_bind_of_ok read, logged, Traced.ofExcept_ok_bind, received, trace,
    ← summary_entity, List.append_assoc]
  congr 1
  cases payload.seen "v" != expected <;> rfl

end
end Ready

/-! ### Whose entries -/

section
variable {context : Option Context}

theorem Context.valueOf_extend (updates : List (String × Value)) (name : String) :
    valueOf (some (extend context updates)) name =
      ((updates.reverse.lookup name).getD (valueOf context name)) := by
  rw [valueOf, extend, Option.getD_some, Fields.lookup_setAll]
  cases updates.reverse.lookup name <;> rfl

/-- An entry has the severity and the message, and its attributes are `own` laid over those of the
context. -/
structure Entry.Tells (entry : Entry) (severity : Severity) (message : String)
    (own : List (String × Value)) (context : Option Context) : Prop where
  severity : entry.severity = severity
  message : entry.message = message
  attributes (name : String) : Context.valueOf entry.attributes name =
    (own.lookup name).getD (Context.valueOf context name)

theorem Entry.tells_extend {severity : Severity} {message : String} {own : List (String × Value)}
    (distinct : (own.map Prod.fst).Nodup) :
    Tells ⟨severity, message, some (Context.extend context own)⟩ severity message own context where
  severity := rfl
  message := rfl
  attributes name := by
    rw [Context.valueOf_extend]
    congr 1
    cases found : own.lookup name with
    | none =>
      apply Value.lookup_of_not_mem
      rw [List.map_reverse, List.mem_reverse]
      intro listed
      obtain ⟨entry, member, rfl⟩ := List.mem_map.mp listed
      rw [Fields.lookup_of_mem distinct member] at found
      contradiction
    | some value =>
      have turned : (own.reverse.map Prod.fst).Nodup := by
        rw [List.map_reverse, List.nodup_reverse]
        exact distinct
      exact Fields.lookup_of_mem turned (List.mem_reverse.mpr (Fields.mem_of_lookup found))

/-- What the entries of an initial state say, whatever their context. Only keys that are met again
and a version that is not the expected one are warned about. -/
theorem Entry.tells (context : Option Context) :
    (∀ table bits, (unknownFlagBits table bits context).Tells .debug
      "Unrecognized flag bits retained"
      [("component", .text "BitFlags"), ("operation", .text "decode"), ("metadata",
        .record [("flagSet", .text table), ("bits", .text (Bits.binaryText bits))])] context) ∧
    (∀ enumeration code, (unknownEnumValue enumeration code context).Tells .debug
      "Unrecognized enum code"
      [("component", .text "EnumCodec"), ("operation", .text "decode"), ("metadata",
        .record [("enum", .text enumeration), ("code", code)])] context) ∧
    (∀ collection key, (duplicateKey collection key context).Tells .warn
      "Duplicate key in keyed collection, keeping last occurrence"
      [("component", .text "KeyedCollection"), ("operation", .text "decode"), ("metadata",
        .record [("collection", .text collection), ("key", key)])] context) ∧
    (∀ expected received, (versionMismatch expected received context).Tells .warn
      "Gateway protocol version mismatch"
      [("component", .text "ReadyCodec"), ("operation", .text "decode"), ("metadata",
        .record [("expected", expected), ("received", received)])] context) ∧
    (∀ payload, (Ready.summaryOf payload context).Tells .debug "Decoded ready payload"
      [("operation", .text "decode"), ("userId", (payload.seen "user").seen "id"), ("metadata",
        .record [("guilds", .ofNat (payload.itemsSeen "guilds").length),
          ("presences", .ofNat (Ready.distinctAt payload "presences" ["user", "id"])),
          ("privateChannels", .ofNat (Ready.distinctAt payload "private_channels" ["id"]))])]
      context) ∧
    ∀ name duration, (performance name duration context).Tells .debug "Performance metric"
      [("operation", .text "performance"), ("metadata",
        .record [("operation", .text name), ("duration", duration), ("unit", .text "ms")])]
      context := by
  refine ⟨?_, ?_, ?_, ?_, ?_, ?_⟩ <;> intros <;> exact tells_extend (by simp [operation])

theorem Context.valueOf_ofUser (v : Value) :
    valueOf (some (ofUser v context)) "userId" = (v.seen "user").seen "id" := by
  rw [ofUser, valueOf_extend]
  rfl

theorem Entry.userId_unknownFlagBits (table : String) (bits : Int) :
    (unknownFlagBits table bits context).userId = Context.valueOf context "userId" :=
  Context.valueOf_extend _ _

theorem Entry.userId_unknownEnumValue (enumeration : String) (code : Value) :
    (unknownEnumValue enumeration code context).userId = Context.valueOf context "userId" :=
  Context.valueOf_extend _ _

theorem Entry.userId_duplicateKey (collection : String) (key : Value) :
    (duplicateKey collection key context).userId = Context.valueOf context "userId" :=
  Context.valueOf_extend _ _

theorem FlagTable.userId_trace {table : FlagTable} {v : Value} :
    ∀ entry ∈ table.trace v context, entry.userId = Context.valueOf context "userId" := by
  intro entry member
  unfold trace at member
  dsimp only at member
  split at member
  · contradiction
  · obtain rfl := List.mem_singleton.mp member
    exact Entry.userId_unknownFlagBits _ _

theorem Enumeration.userId_trace {kinds : Enumeration} {v : Value} :
    ∀ entry ∈ kinds.trace v context, entry.userId = Context.valueOf context "userId" := by
  intro entry member
  unfold trace at member
  split at member
  · contradiction
  · obtain rfl := List.mem_singleton.mp member
    exact Entry.userId_unknownEnumValue _ _

theorem Presence.userId_trace {presence : Value} :
    ∀ entry ∈ Presence.trace presence context,
      entry.userId = (presence.seen "user").seen "id" := by
  intro entry member
  rw [← @Context.valueOf_ofUser context presence]
  simp only [Presence.trace, Activity.trace, List.mem_append, List.mem_flatMap] at member
  rcases member with ⟨activity, _, flags | kind⟩ | flags
  · exact FlagTable.userId_trace entry flags
  · exact Enumeration.userId_trace entry kind
  · exact FlagTable.userId_trace entry flags

theorem PrivateChannel.userId_trace {channel : Value} :
    ∀ entry ∈ PrivateChannel.trace channel context,
      entry.userId = Context.valueOf context "userId" := by
  intro entry member
  simp only [PrivateChannel.trace, List.mem_append, List.mem_flatMap] at member
  rcases member with kind | ⟨recipient, _, flags⟩
  · exact Enumeration.userId_trace entry kind
  · exact FlagTable.userId_trace entry flags

theorem Ready.valueOf_contextOf (given : Value) :
    Context.valueOf (some (contextOf given)) "userId" =
      Context.valueOf (some given.ownFields) "userId" := by
  rw [contextOf, Context.valueOf_extend]
  rfl

end

/-- The log of an accepted payload, by what is seen of its parts. Every entry of a presence names
the user of that presence; the entries of the other parts, and those about keys, name the user of
the caller's context, if that names one. The time that it took shows in the last entry alone. -/
theorem Ready.decode_trace (payload options ready : Value) (env : Environment) (clock : Clock)
    (decoded : (decode payload options env clock).outcome = .ok ready) :
    ∃ given expected, options.field "context" = .ok given ∧
      expectedVersion options env = .ok expected ∧
      (decode payload options env clock).log =
        trace payload expected clock.elapsed (some (contextOf given)) ∧
      (∀ presence, ∀ entry ∈ Presence.trace presence (some (contextOf given)),
        entry.userId = (presence.seen "user").seen "id") ∧
      (∀ channel, ∀ entry ∈ PrivateChannel.trace channel (some (contextOf given)),
        entry.userId = Context.valueOf (some given.ownFields) "userId") ∧
      (∀ (table : FlagTable) v, ∀ entry ∈ table.trace v (some (contextOf given)),
        entry.userId = Context.valueOf (some given.ownFields) "userId") ∧
      ∀ collection key, (Entry.duplicateKey collection key (some (contextOf given))).userId =
        Context.valueOf (some given.ownFields) "userId" := by
  obtain ⟨given, expected, context, version⟩ := settings_of_decode decoded
  refine ⟨given, expected, context, version, log_decode decoded context version, ?_, ?_, ?_, ?_⟩
  · intro presence entry member
    exact Presence.userId_trace entry member
  · intro channel entry member
    rw [← valueOf_contextOf]
    exact PrivateChannel.userId_trace entry member
  · intro table v entry member
    rw [← valueOf_contextOf]
    exact FlagTable.userId_trace entry member
  · intro collection key
    rw [← valueOf_contextOf]
    exact Entry.userId_duplicateKey collection key

/-- A state of another version with unknown codes and flags and two presences of one user. One
activity has no code of its own and inherits one. -/
def Ready.bustle : Value := .record [
  ("v", .ofNat 9),
  ("session_id", .text "s"),
  ("application", .record [("id", .text "1"), ("flags", .ofNat 1)]),
  ("guilds", .list []),
  ("user", .record [
    ("id", .text "3"), ("username", .text "me"), ("discriminator", .text "42")]),
  ("presences", .list [
    .record [("status", .text "idle"), ("user", .record [("id", .text "5")]),
      ("activities", .list [.record [("name", .text "chess"), ("type", .ofNat 9)]])],
    .record [("status", .text "dnd"), ("user", .record [("id", .text "5")]),
      ("activities", .list [
        .record [("name", .text "go"), ("__proto__", .record [("type", .ofNat 7)])]])]]),
  ("private_channels", .list [
    .record [("id", .text "7"), ("type", .ofNat 9), ("recipients", .list [])]])]

theorem Ready.decode_trace_bustle : ∃ ready given expected,
    (decode bustle (.record [("context", .record [("userId", .text "8")])]) [] ⟨20, 23⟩).outcome =
      .ok ready ∧
    (decode bustle (.record [("context", .record [("userId", .text "8")])]) [] ⟨20, 23⟩).log =
      trace bustle expected (.ofNat 3) (some (contextOf given)) ∧
    (trace bustle expected (.ofNat 3) (some (contextOf given))).map (fun entry =>
      (entry.severity, entry.message, entry.userId.text?)) = [
        (.debug, "Unrecognized flag bits retained", some "8"),
        (.debug, "Unrecognized enum code", some "5"),
        (.debug, "Unrecognized enum code", some "5"),
        (.warn, "Duplicate key in keyed collection, keeping last occurrence", some "8"),
        (.debug, "Unrecognized enum code", some "8"),
        (.warn, "Gateway protocol version mismatch", some "8"),
        (.debug, "Decoded ready payload", some "3"),
        (.debug, "Performance metric", some "8")] := by
  obtain ⟨ready, decoded⟩ : ∃ ready,
      (decode bustle (.record [("context", .record [("userId", .text "8")])]) []
        ⟨20, 23⟩).outcome = .ok ready := ⟨_, rfl⟩
  obtain ⟨given, expected, context, version, log, _⟩ := decode_trace _ _ _ _ _ decoded
  obtain rfl := Except.ok.inj context
  obtain rfl := Except.ok.inj version
  exact ⟨ready, _, _, decoded, log, rfl⟩

end ChatGateway
