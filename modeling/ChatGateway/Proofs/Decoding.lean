import ChatGateway.Outcome
import ChatGateway.Proofs.Json
import ChatGateway.Proofs.Reading

/-! The decoders of the nine records. Each checks a payload against its schema and reads it
afterwards; `decode_gate` shows that only the check can refuse a payload. -/
namespace ChatGateway

/-- The context in which a state is decoded. -/
def Ready.contextOf (given : Value) : Context :=
  Context.extend given.ownFields [("component", .text "ReadyCodec")]

/-- The comparison of protocol versions and the summary show in the log alone. -/
theorem Ready.outcome_decode (payload options : Value) (env : Environment) (clock : Clock) :
    (decode payload options env clock).outcome = (options.field "context").bind fun given =>
      (Schema.ready.require "ready" payload (some (contextOf given))).outcome.bind fun wire =>
        (form.read wire (some (contextOf given))).outcome.bind fun ready =>
          (expectedVersion options env).map fun _ => ready := by
  simp only [decode, Traced.outcome_bind, Traced.outcome_ofExcept]
  congr 1
  funext given
  congr 1
  funext wire
  congr 1
  funext ready
  cases expectedVersion options env with
  | error failure => rfl
  | ok version =>
    simp only [Except.bind]
    split <;> rfl

/-- Whatever `Ready.decode` accepts fits the schema, does not break the checker down, and is read as
its layout says. -/
theorem Ready.accepted_of_decode {payload options ready : Value} {env : Environment}
    {clock : Clock} (decoded : (decode payload options env clock).outcome = .ok ready) :
    Schema.ready.breaksDown payload = false ∧ Schema.ready.Fits payload ∧
      ready = Layout.ready.entity payload := by
  rw [outcome_decode] at decoded
  cases given : options.field "context" with
  | error failure =>
    rw [given] at decoded
    contradiction
  | ok context =>
    simp only [given, Except.bind] at decoded
    cases checked : (Schema.ready.require "ready" payload (some (contextOf context))).outcome with
    | error failure =>
      rw [checked] at decoded
      contradiction
    | ok copy =>
      obtain ⟨⟨checkable, fits⟩, rfl⟩ := Schema.outcome_require_eq_ok_iff.mp checked
      have admitted : Layout.ready.Admits payload := Layout.admits_of_fits fits
      have read : (form.read (Schema.ready.copied payload) (some (contextOf context))).outcome =
          .ok (Layout.ready.entity payload) := Layout.outcome_read rfl admitted _
      simp only [checked, read] at decoded
      refine ⟨checkable, fits, ?_⟩
      cases version : expectedVersion options env with
      | error failure =>
        simp [version, Except.map] at decoded
      | ok expected =>
        simpa [version, Except.map, eq_comm] using decoded

/-- Of an accepted state only the expected version can fail. -/
theorem Ready.outcome_decode_of_fits {payload : Value} {options : List (String × Value)}
    {env : Environment} {clock : Clock} (checkable : Schema.ready.breaksDown payload = false)
    (fits : Schema.ready.Fits payload) : (decode payload (.record options) env clock).outcome =
      (expectedVersion (.record options) env).map fun _ => Layout.ready.entity payload := by
  have given : (Value.record options).field "context" =
      .ok ((Value.record options).get "context") := rfl
  have checked (context : Option Context) :
      (Schema.ready.require "ready" payload context).outcome =
        .ok (Schema.ready.copied payload) :=
    Schema.outcome_require_eq_ok_iff.mpr ⟨⟨checkable, fits⟩, rfl⟩
  have admitted : Layout.ready.Admits payload := Layout.admits_of_fits fits
  have read (context : Option Context) :
      (form.read (Schema.ready.copied payload) context).outcome =
        .ok (Layout.ready.entity payload) :=
    Layout.outcome_read rfl admitted context
  simp only [outcome_decode, given, checked, read, Except.bind]

theorem Settings.invalidVersion_of_loadVersion {env : Environment} {failure : Failure}
    (failed : Settings.loadVersion env = .error failure) :
    ∃ raw, env.get? "GATEWAY_VERSION" = some raw ∧ failure = .invalidVersion raw := by
  unfold Settings.loadVersion at failed
  split at failed
  · contradiction
  · rename_i raw held
    refine ⟨raw, held, ?_⟩
    dsimp only at failed
    split at failed
    · split at failed
      · exact (Except.error.inj failed).symm
      · contradiction
    · exact (Except.error.inj failed).symm

theorem Ready.invalidVersion_of_expectedVersion {options : Value} {env : Environment}
    {failure : Failure} (failed : expectedVersion options env = .error failure) :
    ∃ raw, env.get? "GATEWAY_VERSION" = some raw ∧ failure = .invalidVersion raw := by
  have loaded (failed : Value.number <$> Settings.loadVersion env = .error failure) :
      Settings.loadVersion env = .error failure := by
    cases version : Settings.loadVersion env with
    | ok number =>
      rw [version] at failed
      contradiction
    | error other =>
      rw [version] at failed
      exact congrArg Except.error (Except.error.inj failed)
  apply Settings.invalidVersion_of_loadVersion
  unfold expectedVersion at failed
  split at failed
  · exact loaded failed
  · exact loaded failed
  · contradiction

/-- A state with two presences of one user and one of another between them. -/
def Ready.crowd : Value := .record [
  ("v", .ofNat 10),
  ("session_id", .text "s"),
  ("application", .record [("id", .text "1"), ("flags", .ofNat 4096)]),
  ("guilds", .list [.record [("id", .text "2")]]),
  ("user", .record [
    ("id", .text "3"), ("username", .text "me"), ("discriminator", .text "42")]),
  ("presences", .list [
    .record [("status", .text "idle"), ("user", .record [("id", .text "5")])],
    .record [("status", .text "online"), ("user", .record [("id", .text "6")]),
      ("activities", .list [.record [("name", .text "chess")]])],
    .record [("status", .text "dnd"), ("user", .record [("id", .text "5"), ("bot", .null)])]]),
  ("private_channels", .list [
    .record [("id", .text "7"), ("type", .ofNat 1), ("recipients", .list [])]])]

inductive RecordType where
  | activity
  | user
  | currentUser
  | presenceUser
  | presence
  | ready
  | gateway
  | botGateway
  | sessionStartLimit
  deriving DecidableEq

/-- What a decoder is handed beside the payload. Options, environment and clock count for the
initial state of a session alone, and the context for all others. -/
structure Call where
  context : Option Context
  options : List (String × Value)
  env : Environment
  clock : Clock

/-- A call that is handed a context and nothing else. -/
def Call.within (context : Option Context) : Call := ⟨context, [], [], ⟨0, 0⟩⟩

namespace RecordType

def layout : RecordType → Layout
  | activity => .activity
  | user => .user
  | currentUser => .currentUser
  | presenceUser => .presenceUser
  | presence => .presence
  | ready => .ready
  | gateway => .gateway
  | botGateway => .botGateway
  | sessionStartLimit => .sessionStartLimit

def form : RecordType → Form
  | activity => Activity.form
  | user => User.form
  | currentUser => CurrentUser.form
  | presenceUser => PresenceUser.form
  | presence => Presence.form
  | ready => Ready.form
  | gateway => Gateway.form
  | botGateway => BotGateway.form
  | sessionStartLimit => SessionStartLimit.form

def schema : RecordType → Schema
  | activity => .activity
  | user => .user
  | currentUser => .currentUser
  | presenceUser => .presenceUser
  | presence => .presence
  | ready => .ready
  | gateway => .gateway
  | botGateway => .botGateway
  | sessionStartLimit => .sessionStartLimit

/-- What a payload is called in the message of an error. -/
def root : RecordType → String
  | activity => "activity"
  | user | currentUser | presenceUser => "user"
  | presence => "presence"
  | ready => "ready"
  | gateway | botGateway => "gateway"
  | sessionStartLimit => "session_start_limit"

def decode (r : RecordType) (payload : Value) (call : Call) : Traced Value :=
  match r with
  | activity => Activity.decode payload call.context
  | user => User.decode payload call.context
  | currentUser => CurrentUser.decode payload call.context
  | presenceUser => PresenceUser.decode payload call.context
  | presence => Presence.decode payload call.context
  | ready => Ready.decode payload (.record call.options) call.env call.clock
  | gateway => Gateway.decode payload call.context
  | botGateway => BotGateway.decode payload call.context
  | sessionStartLimit => SessionStartLimit.decode payload call.context

/-- The initial state of a session is compared with a protocol version, which the options name or
else the environment, where it has to be well written. -/
def Configured (r : RecordType) (call : Call) : Prop :=
  r = ready → ∃ version, Ready.expectedVersion (.record call.options) call.env = .ok version

theorem configured_of_ne {r : RecordType} {call : Call} (other : r ≠ ready) : r.Configured call :=
  fun same => absurd same other

theorem form_layout (r : RecordType) : r.layout.form = r.form := by cases r <;> rfl

theorem schema_layout (r : RecordType) : r.layout.schema = r.schema := by cases r <;> rfl

theorem coherent_layout (r : RecordType) : r.layout.coherent = true := by cases r <;> rfl

theorem required_layout (r : RecordType) : r.layout.occurrence = .required := by cases r <;> rfl

theorem admits_layout {r : RecordType} {v : Value} (fits : r.schema.Fits v) :
    r.layout.Admits v :=
  Layout.admits_of_fits (r.schema_layout ▸ fits)

theorem outcome_read {r : RecordType} {v : Value} (fits : r.schema.Fits v)
    (context : Option Context) :
    (r.form.read (r.schema.copied v) context).outcome = .ok (r.layout.entity v) := by
  rw [← r.form_layout, ← r.schema_layout]
  exact Layout.outcome_read r.coherent_layout (admits_layout fits) context

/-- A decoder checks and then reads. What `Ready.decode` does beyond that shows in the log alone. -/
theorem outcome_decode {r : RecordType} {call : Call} (configured : r.Configured call)
    (payload : Value) : ∃ context, (r.decode payload call).outcome =
      (r.schema.require r.root payload context).outcome.bind fun wire =>
        (r.form.read wire context).outcome := by
  cases r with
  | ready =>
    obtain ⟨version, known⟩ := configured rfl
    have given : (Value.record call.options).field "context" =
        .ok ((Value.record call.options).get "context") := rfl
    refine ⟨some (Ready.contextOf ((Value.record call.options).get "context")), ?_⟩
    simp only [decode, Ready.outcome_decode, given, known, Except.map, Except.bind, schema, root,
      form]
    split
    · rfl
    · split
      · rename_i failed
        exact failed.symm
      · rename_i read
        exact read.symm
  | _ =>
    exact ⟨call.context, by simp only [decode, Activity.decode, User.decode, CurrentUser.decode,
      PresenceUser.decode, Presence.decode, Gateway.decode, BotGateway.decode,
      SessionStartLimit.decode, Traced.outcome_bind, schema, root, form]⟩

theorem outcome_decode_of_fits {r : RecordType} {call : Call} (configured : r.Configured call)
    {payload : Value} (checkable : r.schema.breaksDown payload = false)
    (fits : r.schema.Fits payload) :
    (r.decode payload call).outcome = .ok (r.layout.entity payload) := by
  obtain ⟨context, decoded⟩ := outcome_decode configured payload
  rw [decoded, Schema.outcome_require_eq_ok_iff.mpr ⟨⟨checkable, fits⟩, rfl⟩]
  exact outcome_read fits context

/-- Whatever a decoder accepts fits the schema, does not break the checker down, and is read as the
layout says. -/
theorem accepted_of_decode {r : RecordType} {call : Call} {payload entity : Value}
    (decoded : (r.decode payload call).outcome = .ok entity) :
    r.schema.breaksDown payload = false ∧ r.schema.Fits payload ∧
      entity = r.layout.entity payload := by
  by_cases initial : r = ready
  · subst initial
    exact Ready.accepted_of_decode decoded
  · have configured : r.Configured call := configured_of_ne initial
    obtain ⟨context, steps⟩ := outcome_decode configured payload
    cases checked : (r.schema.require r.root payload context).outcome with
    | error failure =>
      rw [steps, checked] at decoded
      contradiction
    | ok copy =>
      obtain ⟨⟨checkable, fits⟩, _⟩ := Schema.outcome_require_eq_ok_iff.mp checked
      have read := outcome_decode_of_fits configured checkable fits
      exact ⟨checkable, fits, Except.ok.inj (decoded.symm.trans read)⟩

/-- A payload that does not fit is refused before anything else can go wrong. -/
theorem outcome_decode_of_not_fits {r : RecordType} {payload : Value} (given : payload.IsPayload)
    (misfit : ¬ r.schema.Fits payload) (call : Call) : (r.decode payload call).outcome =
      .error (.decode (.ofProblems r.root (r.schema.report r.root payload))) := by
  have problems : r.schema.report r.root payload ≠ [] :=
    fun none => misfit (Schema.report_eq_nil_iff.mp none)
  have refused (context : Option Context) :
      (r.schema.require r.root payload context).outcome =
        .error (.decode (.ofProblems r.root (r.schema.report r.root payload))) := by
    rw [Schema.outcome_require given, if_neg problems]
  by_cases initial : r = ready
  · subst initial
    have options : (Value.record call.options).field "context" =
        .ok ((Value.record call.options).get "context") := rfl
    simp only [schema, root] at refused ⊢
    simp only [decode, Ready.outcome_decode, options, Except.bind, refused]
  · obtain ⟨context, decoded⟩ := @outcome_decode r call (configured_of_ne initial) payload
    rw [decoded, refused]
    rfl

/-- Payloads that pass the check and are read alike are decoded alike, log and all. -/
theorem decode_congr {r : RecordType} {v w : Value} (given : v.IsPayload) (again : w.IsPayload)
    (fits : r.schema.Fits v) (too : r.schema.Fits w)
    (read : ∀ context, r.form.read (r.schema.copied w) context =
      r.form.read (r.schema.copied v) context) (call : Call) :
    r.decode w call = r.decode v call := by
  have first (root : String) (context : Option Context) :
      r.schema.require root v context = .result (r.schema.copied v) :=
    Schema.require_of_accepts (Schema.breaksDown_of_isPayload given)
      (Schema.check_eq_nil_iff.mpr fits) root context
  have second (root : String) (context : Option Context) :
      r.schema.require root w context = .result (r.schema.copied w) :=
    Schema.require_of_accepts (Schema.breaksDown_of_isPayload again)
      (Schema.check_eq_nil_iff.mpr too) root context
  cases r <;> simp only [schema, form] at first second read <;>
    simp only [decode, Activity.decode, User.decode, CurrentUser.decode, PresenceUser.decode,
      Presence.decode, Gateway.decode, BotGateway.decode, SessionStartLimit.decode, Ready.decode,
      first, second, Traced.result_bind, read]

/-- The schema is the only gate: a payload is decoded exactly if its schema accepts it, and is
refused with all of its problems otherwise. Reading what was accepted cannot fail, so that a verdict
is always given. -/
theorem decode_gate (r : RecordType) (call : Call) (configured : r.Configured call)
    (payload : Value) (given : payload.IsPayload) :
    ((∃ entity, (r.decode payload call).outcome = .ok entity) ↔
      r.schema.accepts payload = true) ∧
    (r.schema.accepts payload = false → ∃ error,
      (r.decode payload call).outcome = .error (.decode error) ∧
      error = .ofProblems r.root (r.schema.report r.root payload) ∧
      error.details = r.schema.report r.root payload ∧ error.details ≠ []) ∧
    (r.schema.accepts payload = true → ∀ context, ∃ entity,
      (r.form.read (r.schema.copied payload) context).outcome = .ok entity) ∧
    ∀ context, ∃ verdict, ((r.decode payload call).verdict context).outcome = .ok verdict ∧
      (r.decode payload call).outcome = match verdict with
        | .valid entity => .ok entity
        | .invalid error => .error (.decode error) := by
  by_cases fits : r.schema.Fits payload
  · have accepted := Schema.accepts_iff_fits.mpr fits
    have decoded := outcome_decode_of_fits configured (Schema.breaksDown_of_isPayload given) fits
    refine ⟨⟨fun _ => accepted, fun _ => ⟨_, decoded⟩⟩, ?_, fun _ context => ?_, fun context => ?_⟩
    · intro refused
      rw [accepted] at refused
      contradiction
    · exact ⟨_, outcome_read fits context⟩
    · exact ⟨.valid (r.layout.entity payload), by simp only [Traced.verdict, decoded], decoded⟩
  · have refused : r.schema.accepts payload = false :=
      Bool.eq_false_iff.mpr fun accepted => fits (Schema.accepts_iff_fits.mp accepted)
    have decoded := outcome_decode_of_not_fits given fits call
    have problems : r.schema.report r.root payload ≠ [] :=
      fun none => fits (Schema.report_eq_nil_iff.mp none)
    refine ⟨⟨fun ⟨entity, ok⟩ => ?_, fun accepted => ?_⟩, fun _ => ?_, fun accepted => ?_,
      fun context => ?_⟩
    · rw [decoded] at ok
      contradiction
    · rw [refused] at accepted
      contradiction
    · exact ⟨_, decoded, rfl, rfl, problems⟩
    · rw [refused] at accepted
      contradiction
    · exact ⟨.invalid _, by simp only [Traced.verdict, decoded], decoded⟩

/-- An empty state is refused with the problems of all fields that it lacks. -/
theorem decode_gate_empty_ready :
    (Value.record []).IsPayload ∧ Configured .ready (.within none) ∧
    ∃ error, (Ready.decode (.record []) (.record []) [] ⟨0, 0⟩).outcome = .error (.decode error) ∧
      error.details = Schema.ready.report "ready" (.record []) := by
  have payload : (Value.record []).IsPayload := .inr (Value.isJson_record.mpr (by simp))
  have configured : Configured .ready (.within none) := fun _ => ⟨_, rfl⟩
  have gate := decode_gate .ready (.within none) configured (.record []) payload
  obtain ⟨error, decoded, _, details, _⟩ := gate.2.1 rfl
  exact ⟨payload, configured, error, decoded, details⟩

end RecordType
end ChatGateway
