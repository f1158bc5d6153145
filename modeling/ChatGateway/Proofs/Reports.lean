import ChatGateway.Proofs.ReadyTrace

/-! The log of a refusal. A refused payload leaves one warning for each problem of the error, in the
order of the problems, and nothing else. A payload that is no JSON value may have a problem that
cannot be logged, and the report is lost then. -/
namespace ChatGateway

/-- How an entry shows a value of a JSON kind: null, lists and records by their JSON text, all else
as it is. -/
def Value.ShownAs (v shown : Value) : Prop :=
  match v with
  | .null | .list _ | .record _ => ∃ s, Json.text? v = .ok (some s) ∧ shown = .text s
  | _ => shown = v

/-- The entry is the warning of a component about a problem. All else in it is the context's. -/
structure Problem.Warned (context : Option Context) (component : Value) (problem : Problem)
    (entry : Entry) : Prop where
  severity : entry.severity = .warn
  message : entry.message = "Validation error"
  component : Context.valueOf entry.attributes "component" = component
  operation : Context.valueOf entry.attributes "operation" = .text "validation"
  metadata : ∃ shown, problem.value.ShownAs shown ∧
    Context.valueOf entry.attributes "metadata" = .record [
      ("field", .text problem.field), ("rule", .text problem.rule), ("value", shown)]
  others : ∀ name ∉ ["component", "operation", "metadata"],
    Context.valueOf entry.attributes name = Context.valueOf context name

theorem Entry.shownAs_of_shownValue {v shown : Value} (part : v.IsPart)
    (ok : Entry.shownValue v = .ok shown) : v.ShownAs shown := by
  have compound {parts : Except Json.NoText (List String)} {write : List String → String}
      (text : Json.text? v = do return some (write (← parts)))
      (value : Entry.shownValue v = do return ((← Json.text? v).map .text).getD .absent) :
      ∃ s, Json.text? v = .ok (some s) ∧ shown = .text s := by
    rw [value, text] at ok
    cases parts with
    | error => contradiction
    | ok parts => exact ⟨write parts, text, (Except.ok.inj ok).symm⟩
  obtain (rfl | json) | name := part
  · exact (Except.ok.inj ok).symm
  · cases json with
    | null => exact ⟨"null", rfl, (Except.ok.inj ok).symm⟩
    | list => exact compound (by rw [Json.text?]) rfl
    | record => exact compound (by rw [Json.text?]) rfl
    | _ => exact (Except.ok.inj ok).symm
  · exact (Except.ok.inj ok).symm

/-- The component that a warning names: that of the context, if it has one. -/
def Context.component (context : Option Context) : Value :=
  (Context.valueOf context "component").orElse (.text "Validator")

/-- The entry that is written for a problem warns of it. -/
theorem Problem.warned_of_validationError {problem : Problem} (part : problem.value.IsPart)
    {context : Option Context} {entry : Entry}
    (written : Entry.validationError problem.field problem.rule problem.value context =
      .ok entry) : problem.Warned context (Context.component context) entry := by
  rw [Entry.validationError_eq] at written
  cases value : Entry.shownValue problem.value with
  | error =>
    rw [value] at written
    contradiction
  | ok shown =>
    rw [value] at written
    obtain rfl := Except.ok.inj written
    refine ⟨rfl, rfl, ?_, ?_, ⟨shown, Entry.shownAs_of_shownValue part value, ?_⟩, ?_⟩
    · exact Context.valueOf_extend _ _
    · exact Context.valueOf_extend _ _
    · exact Context.valueOf_extend _ _
    · intro name other
      simp only [List.mem_cons, List.not_mem_nil, or_false, not_or] at other
      obtain ⟨component, operation, metadata⟩ := other
      rw [Context.valueOf_extend]
      simp [List.lookup_cons, beq_eq_false_iff_ne.mpr component,
        beq_eq_false_iff_ne.mpr operation, beq_eq_false_iff_ne.mpr metadata]

/-- Logging problems writes a warning for each and nothing else. -/
theorem log_logProblems {problems : List Problem} (context : Option Context)
    (parts : ∀ problem ∈ problems, problem.value.IsPart) :
    List.Forall₂ (Problem.Warned context (Context.component context)) problems
      (logProblems context problems).log := by
  induction problems with
  | nil => exact .nil
  | cons head rest ih =>
    simp only [List.forall_mem_cons] at parts
    have shown := Entry.shownValue_fails_iff.not.mpr (Value.not_buries_of_isPart parts.1)
    cases written : Entry.validationError head.field head.rule head.value context with
    | error =>
      rw [Entry.validationError_eq] at written
      cases value : Entry.shownValue head.value with
      | error => exact absurd value shown
      | ok w =>
        rw [value] at written
        contradiction
    | ok entry =>
      have step : (logProblems context (head :: rest)).log =
          entry :: (logProblems context rest).log := by
        simp only [logProblems, written]
        exact Traced.log_bind_of_ok rfl _
      rw [step]
      exact .cons (Problem.warned_of_validationError parts.1 written) (ih parts.2)

namespace RecordType

/-- The context of what a decoder logs. -/
def contextOf (r : RecordType) (call : Call) : Option Context :=
  match r with
  | ready => some (Ready.contextOf ((Value.record call.options).get "context"))
  | _ => call.context

/-- A decoder checks first, and ends there if the check fails. -/
theorem decode_of_refused {r : RecordType} {call : Call} {payload : Value} {failure : Failure}
    (refused : (r.schema.require r.root payload (r.contextOf call)).outcome = .error failure) :
    (r.decode payload call).outcome = .error failure ∧ (r.decode payload call).log =
      (r.schema.validate r.root payload (r.contextOf call)).log := by
  obtain ⟨next, steps⟩ : ∃ next : Value → Traced Value, r.decode payload call =
      r.schema.require r.root payload (r.contextOf call) >>= next := by
    cases r <;> exact ⟨_, rfl⟩
  rw [steps, Traced.outcome_bind, Traced.log_bind_of_error refused, refused, Schema.log_require]
  exact ⟨rfl, rfl⟩

/-- The component that the entries of a refusal name. -/
def componentOf (r : RecordType) (call : Call) : Value :=
  match r with
  | ready => .text "ReadyCodec"
  | _ => Context.component call.context

theorem component_contextOf (r : RecordType) (call : Call) :
    Context.component (r.contextOf call) = r.componentOf call := by
  cases r with
  | ready =>
    have named : Context.valueOf (contextOf ready call) "component" = .text "ReadyCodec" :=
      Context.valueOf_extend _ _
    rw [Context.component, named]
    rfl
  | _ => rfl

theorem report_ne_nil {r : RecordType} {payload : Value}
    (refused : r.schema.accepts payload = false) : r.schema.report r.root payload ≠ [] := by
  intro none
  have accepted := Schema.accepts_iff_fits.mpr (Schema.report_eq_nil_iff.mp none)
  rw [refused] at accepted
  contradiction

/-- The log of a refusal: the warnings about the problems that the error details, in their order. -/
theorem log_refused (r : RecordType) (call : Call) (payload : Value) (given : payload.IsPayload)
    (refused : r.schema.accepts payload = false) :
    ∃ error, (r.decode payload call).outcome = .error (.decode error) ∧
      error.details = r.schema.report r.root payload ∧
      List.Forall₂ (Problem.Warned (r.contextOf call) (r.componentOf call)) error.details
        (r.decode payload call).log := by
  have checked := @Schema.outcome_require r.schema r.root payload given (r.contextOf call)
  rw [if_neg (report_ne_nil refused)] at checked
  obtain ⟨outcome, log⟩ := decode_of_refused checked
  have parts : ∀ problem ∈ r.schema.report r.root payload, problem.value.IsPart := by
    intro problem member
    obtain ⟨finding, found, rfl⟩ := List.mem_map.mp member
    exact Schema.check_inherits Value.inherited_isPart (.payload given) finding found
  refine ⟨_, outcome, rfl, ?_⟩
  rw [log, Schema.log_validate (Schema.breaksDown_of_isPayload given), ← component_contextOf]
  exact log_logProblems _ parts

/-- A state without its application and guilds, with three fields of a wrong kind. -/
def malformed : Value := .record [
  ("v", .null),
  ("session_id", .ofNat 5),
  ("user", .list [.text "me"])]

theorem log_refused_malformed : malformed.IsPayload ∧ ready.schema.accepts malformed = false ∧
    ∃ error, (ready.decode malformed (.within none)).outcome = .error (.decode error) ∧
      List.Forall₂ (Problem.Warned (ready.contextOf (.within none)) (.text "ReadyCodec"))
        error.details (ready.decode malformed (.within none)).log ∧
      (ready.decode malformed (.within none)).log.map (fun entry =>
        (Context.valueOf entry.attributes "metadata").textAt? "value") =
          [none, none, none, some "[\"me\"]", some "null"] := by
  have payload : malformed.IsPayload := .inr (by simp [malformed, Value.ofNat])
  have refused : ready.schema.accepts malformed = false := rfl
  obtain ⟨error, decoded, _, warned⟩ := log_refused .ready (.within none) malformed payload refused
  exact ⟨payload, refused, error, decoded, warned, rfl⟩

/-! ### Reports that are lost -/

section
variable {r : RecordType} {payload : Value}

/-- A report that is given becomes the error of the decoder and the verdict. -/
theorem decode_of_reportable (reportable : r.schema.Reportable payload)
    (refused : r.schema.accepts payload = false) (call : Call) :
    ∃ error, error.details = r.schema.report r.root payload ∧
      (r.decode payload call).outcome = .error (.decode error) ∧
      ∀ context, ((r.decode payload call).verdict context).outcome = .ok (.invalid error) := by
  have checked : (r.schema.require r.root payload (r.contextOf call)).outcome =
      .error (.decode (.ofProblems r.root (r.schema.report r.root payload))) := by
    rw [Schema.outcome_require_eq, Schema.outcome_validate_of_reportable reportable]
    cases problems : r.schema.report r.root payload with
    | nil => exact absurd problems (report_ne_nil refused)
    | cons head rest => rfl
  obtain ⟨decoded, _⟩ := decode_of_refused checked
  exact ⟨_, rfl, decoded, fun context => by simp only [Traced.verdict, decoded]⟩

/-- A check that fails otherwise makes the decoder fail, and no verdict is given. -/
theorem decode_of_failed {failure : Failure} {call : Call}
    (other : ∀ error, failure ≠ .decode error)
    (failed : (r.schema.validate r.root payload (r.contextOf call)).outcome = .error failure) :
    (r.decode payload call).outcome = .error failure ∧
      ∀ context, ((r.decode payload call).verdict context).outcome = .error failure := by
  have checked : (r.schema.require r.root payload (r.contextOf call)).outcome = .error failure := by
    rw [Schema.outcome_require_eq, failed]
    rfl
  obtain ⟨decoded, _⟩ := decode_of_refused checked
  refine ⟨decoded, ?_⟩
  intro context
  cases failure with
  | decode error => exact absurd rfl (other error)
  | _ => simp only [Traced.verdict, decoded]

end

/-- What becomes of a report. It is given unless a map stands where a record with a size is looked
for, or an integer of unbounded size is buried in the value of a problem; a payload without such
integers can only have the first of these. A decoder hands a report on as its error and as its
verdict, and fails where there is none. -/
theorem validate_reports (payload : Value) :
    (∀ (shape : Schema) root context,
      (shape.Reportable payload →
        (shape.validate root payload context).outcome = .ok (shape.report root payload)) ∧
      (shape.breaksDown payload = true →
        (shape.validate root payload context).outcome = .error .noSize) ∧
      (shape.breaksDown payload = false → ¬ shape.Reportable payload →
        (shape.validate root payload context).outcome = .error .noText)) ∧
    (¬ payload.HoldsInteger → ∀ shape : Schema, shape.breaksDown payload = false →
      shape.Reportable payload) ∧
    ∀ (r : RecordType) call, r.schema.accepts payload = false →
      (r.schema.Reportable payload → ∃ error, error.details = r.schema.report r.root payload ∧
        (r.decode payload call).outcome = .error (.decode error) ∧
        ∀ context, ((r.decode payload call).verdict context).outcome = .ok (.invalid error)) ∧
      (¬ r.schema.Reportable payload → ∃ failure ∈ [Failure.noText, Failure.noSize],
        (r.decode payload call).outcome = .error failure ∧
        ∀ context, ((r.decode payload call).verdict context).outcome = .error failure) := by
  have broken {shape : Schema} (breaks : shape.breaksDown payload = true) (root : String)
      (context : Option Context) : (shape.validate root payload context).outcome =
        .error .noSize := by
    rw [Schema.validate_of_breaksDown breaks]
  have lost {shape : Schema} (checkable : shape.breaksDown payload = false)
      (unreported : ¬ shape.Reportable payload) (root : String) (context : Option Context) :
      (shape.validate root payload context).outcome = .error .noText := by
    rcases Schema.validate_cases shape payload with reportable | breaks | ⟨_, _, found, buried⟩
    · contradiction
    · rw [checkable] at breaks
      contradiction
    · exact Schema.outcome_validate_of_buried checkable found buried context
  refine ⟨?_, ?_, ?_⟩
  · intro shape root context
    refine ⟨?_, fun breaks => broken breaks root context, ?_⟩
    · intro reportable
      exact Schema.outcome_validate_of_reportable reportable context
    · intro checkable unreported
      exact lost checkable unreported root context
  · intro without shape checkable
    refine ⟨checkable, ?_⟩
    intro finding found ⟨holds, _⟩
    exact Schema.check_inherits Value.inherited_not_holdsInteger without finding found holds
  · intro r call refused
    refine ⟨fun reportable => decode_of_reportable reportable refused call, ?_⟩
    intro unreported
    by_cases breaks : r.schema.breaksDown payload = true
    · exact ⟨.noSize, by simp, decode_of_failed nofun (broken breaks _ _)⟩
    · have checkable := Bool.eq_false_iff.mpr breaks
      exact ⟨.noText, by simp, decode_of_failed nofun (lost checkable unreported _ _)⟩

/-- The address of a gateway that is a list with an integer of unbounded size in it. -/
def unbounded : Value := .record [("url", .list [.integer 1])]

theorem validate_reports_unbounded : gateway.schema.accepts unbounded = false ∧
    ¬ gateway.schema.Reportable unbounded ∧
    (gateway.schema.validate "gateway" unbounded none).outcome = .error .noText ∧
    ∀ context, ((gateway.decode unbounded (.within none)).verdict context).outcome =
      .error .noText := by
  have refused : gateway.schema.accepts unbounded = false := rfl
  have unreported : ¬ gateway.schema.Reportable unbounded := by
    intro reportable
    have buried : (Value.list [.integer 1]).Buries := ⟨.item (by simp) (.integer 1), nofun⟩
    exact reportable.shown _ (List.mem_singleton_self _) buried
  obtain ⟨checks, _, decodes⟩ := validate_reports unbounded
  obtain ⟨_, _, lost⟩ := checks gateway.schema "gateway" none
  obtain ⟨failure, _, decoded, verdict⟩ := (decodes gateway (.within none) refused).2 unreported
  obtain rfl : Failure.noText = failure := Except.error.inj decoded
  exact ⟨refused, unreported, lost rfl unreported, verdict⟩

end RecordType
end ChatGateway
