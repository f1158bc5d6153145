import ChatGateway.Proofs.Reports
import ChatGateway.Proofs.Settings

/-! What decoding does not depend on. Contexts show in the log alone, and so do protocol versions,
as long as one is to be had: `decode_indifferent`. -/
namespace ChatGateway

/-- The options name an expected version, or the settings can be loaded from the environment. -/
def Call.Versioned (call : Call) : Prop :=
  ((Value.record call.options).get "expectedVersion").isVacant = false ∨
    ∃ settings, Settings.load call.env = .ok settings

/-- The calls look for the version in the same places: they may differ in the contexts. -/
structure Call.SameVersion (one other : Call) : Prop where
  env : one.env = other.env
  expected : (Value.record one.options).get "expectedVersion" =
    (Value.record other.options).get "expectedVersion"

theorem Call.SameVersion.expectedVersion {one other : Call} (same : one.SameVersion other) :
    Ready.expectedVersion (.record one.options) one.env =
      Ready.expectedVersion (.record other.options) other.env := by
  rw [Ready.expectedVersion, Ready.expectedVersion, same.env, same.expected]

theorem Call.versioned_iff {call : Call} : call.Versioned ↔
    ∃ version, Ready.expectedVersion (.record call.options) call.env = .ok version := by
  have loads : (∃ settings, Settings.load call.env = .ok settings) ↔
      ∃ version, Value.number <$> Settings.loadVersion call.env = .ok version := by
    rw [Settings.load_eq]
    cases Settings.loadVersion call.env with
    | error failure => simp [Except.map, Functor.map]
    | ok version => simp [Except.map, Functor.map]
  rw [Versioned, loads, Ready.expectedVersion]
  cases (Value.record call.options).get "expectedVersion" <;> simp [Value.isVacant]

namespace RecordType

/-- The call settles all that a decoder looks up: a version for an initial state. -/
theorem configured_of_versioned {r : RecordType} {call : Call}
    (versioned : r = ready → call.Versioned) : r.Configured call :=
  fun initial => Call.versioned_iff.mp (versioned initial)

theorem outcome_decode_of_refused {r : RecordType} {payload : Value}
    (refused : r.schema.accepts payload = false) (one other : Call) :
    (r.decode payload one).outcome = (r.decode payload other).outcome := by
  have same := Schema.outcome_require_indifferent r.schema r.root payload (r.contextOf one)
    (r.contextOf other)
  cases checked : (r.schema.require r.root payload (r.contextOf one)).outcome with
  | error failure =>
    rw [(decode_of_refused checked).1, (decode_of_refused (same.symm.trans checked)).1]
  | ok passed =>
    obtain ⟨⟨_, fits⟩, _⟩ := Schema.outcome_require_eq_ok_iff.mp checked
    rw [Schema.accepts_iff_fits.mpr fits] at refused
    contradiction

theorem outcome_decode_of_breaksDown {r : RecordType} {payload : Value}
    (broken : r.schema.breaksDown payload = true) (call : Call) :
    (r.decode payload call).outcome = .error .noSize := by
  apply And.left
  apply decode_of_refused
  rw [Schema.outcome_require_eq, Schema.validate_of_breaksDown broken]
  rfl

/-- The outcome for a payload that the schema accepts depends on the call in the version alone. -/
theorem outcome_decode_of_versioned {r : RecordType} {payload : Value}
    (fits : r.schema.Fits payload) {one other : Call} (first : r = ready → one.Versioned)
    (second : r = ready → other.Versioned) :
    (r.decode payload one).outcome = (r.decode payload other).outcome := by
  cases checkable : r.schema.breaksDown payload with
  | false =>
    rw [outcome_decode_of_fits (configured_of_versioned first) checkable fits,
      outcome_decode_of_fits (configured_of_versioned second) checkable fits]
  | true => rw [outcome_decode_of_breaksDown checkable, outcome_decode_of_breaksDown checkable]

/-- Without a version, the decoder of an initial state fails on what it would accept. -/
theorem outcome_decode_of_unversioned {payload : Value} {call : Call}
    (unversioned : ¬ call.Versioned) (checkable : Schema.ready.breaksDown payload = false)
    (fits : Schema.ready.Fits payload) : ∃ raw, call.env.get? "GATEWAY_VERSION" = some raw ∧
      (ready.decode payload call).outcome = .error (.invalidVersion raw) := by
  cases version : Ready.expectedVersion (.record call.options) call.env with
  | ok expected => exact absurd (Call.versioned_iff.mpr ⟨expected, version⟩) unversioned
  | error failure =>
    obtain ⟨raw, held, rfl⟩ := Ready.invalidVersion_of_expectedVersion version
    refine ⟨raw, held, ?_⟩
    rw [decode, Ready.outcome_decode_of_fits checkable fits, version]
    rfl

/-- Contexts make no difference, be there a version or not. -/
theorem outcome_decode_of_sameVersion {r : RecordType} {payload : Value} {one other : Call}
    (same : r = ready → one.SameVersion other) :
    (r.decode payload one).outcome = (r.decode payload other).outcome := by
  by_cases accepted : r.schema.accepts payload = true
  · have fits := Schema.accepts_iff_fits.mp accepted
    cases checkable : r.schema.breaksDown payload with
    | true => rw [outcome_decode_of_breaksDown checkable, outcome_decode_of_breaksDown checkable]
    | false =>
      by_cases initial : r = ready
      · subst initial
        simp only [decode, Ready.outcome_decode_of_fits checkable fits, (same rfl).expectedVersion]
      · rw [outcome_decode_of_fits (configured_of_ne initial) checkable fits,
          outcome_decode_of_fits (configured_of_ne initial) checkable fits]
  · exact outcome_decode_of_refused (Bool.eq_false_iff.mpr accepted) one other

/-- Contexts and versions show in the log alone. Two calls that differ in their contexts give the
same outcome, and so do any two where a version is to be had in each; one that has none refuses the
same payloads with the same error, and fails on those that the schema accepts. -/
theorem decode_indifferent (r : RecordType) (payload : Value) (one other : Call) :
    ((r = ready → one.SameVersion other) →
      (r.decode payload one).outcome = (r.decode payload other).outcome) ∧
    ((r = ready → one.Versioned) → (r = ready → other.Versioned) →
      (r.decode payload one).outcome = (r.decode payload other).outcome) ∧
    (r.schema.accepts payload = false →
      (r.decode payload one).outcome = (r.decode payload other).outcome ∧
      (r.schema.Reportable payload → ∃ error, error.details = r.schema.report r.root payload ∧
        (r.decode payload other).outcome = .error (.decode error))) ∧
    (r = ready → ¬ other.Versioned → r.schema.accepts payload = true →
      r.schema.breaksDown payload = false → ∃ raw,
        other.env.get? "GATEWAY_VERSION" = some raw ∧
        (r.decode payload other).outcome = .error (.invalidVersion raw)) := by
  refine ⟨outcome_decode_of_sameVersion, ?_, ?_, ?_⟩
  · intro first second
    by_cases accepted : r.schema.accepts payload = true
    · exact outcome_decode_of_versioned (Schema.accepts_iff_fits.mp accepted) first second
    · exact outcome_decode_of_refused (Bool.eq_false_iff.mpr accepted) one other
  · intro refused
    refine ⟨outcome_decode_of_refused refused one other, ?_⟩
    intro reportable
    obtain ⟨error, details, decoded, _⟩ := decode_of_reportable reportable refused other
    exact ⟨error, details, decoded⟩
  · rintro rfl unversioned accepted checkable
    exact outcome_decode_of_unversioned unversioned checkable (Schema.accepts_iff_fits.mp accepted)

/-- A call in whose environment the version is no number. -/
def misconfigured : Call := ⟨none, [], [("GATEWAY_VERSION", "ten")], ⟨0, 0⟩⟩

/-- A wrong version goes unnoticed with a malformed state and surfaces with an acceptable one. -/
theorem decode_indifferent_misconfigured : ¬ misconfigured.Versioned ∧
    (ready.decode malformed misconfigured).outcome =
      (ready.decode malformed ⟨none, [("expectedVersion", .ofNat 9)], [], ⟨0, 0⟩⟩).outcome ∧
    (ready.decode Ready.crowd misconfigured).outcome = .error (.invalidVersion "ten") := by
  have unversioned : ¬ misconfigured.Versioned := by
    rintro (given | ⟨settings, loaded⟩)
    · contradiction
    · contradiction
  obtain ⟨_, _, refusal, _⟩ := decode_indifferent .ready malformed misconfigured
    ⟨none, [("expectedVersion", .ofNat 9)], [], ⟨0, 0⟩⟩
  obtain ⟨_, _, _, acceptance⟩ := decode_indifferent .ready Ready.crowd misconfigured misconfigured
  obtain ⟨raw, held, failed⟩ := acceptance rfl unversioned rfl rfl
  obtain rfl : "ten" = raw := Option.some.inj held
  exact ⟨unversioned, (refusal rfl).1, failed⟩

end RecordType
end ChatGateway
