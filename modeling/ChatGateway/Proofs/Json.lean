import ChatGateway.Proofs.Fits
import ChatGateway.Proofs.Showing

/-! Payloads of JSON kinds. On them the checker never breaks down and every problem can be logged,
so that checking ends with a verdict: `outcome_require` says which. -/
namespace ChatGateway

namespace Value

/-- A value of the kinds that JSON has, through and through. -/
inductive IsJson : Value → Prop
  | null : IsJson .null
  | bool (b : Bool) : IsJson (.bool b)
  | number (n : Number) : IsJson (.number n)
  | text (s : String) : IsJson (.text s)
  | list {items : List Value} : (∀ item ∈ items, IsJson item) → IsJson (.list items)
  | record {fields : List (String × Value)} :
      (∀ field ∈ fields, IsJson field.2) → IsJson (.record fields)

/-- What a peer can send: nothing at all, or a JSON value. -/
def IsPayload (v : Value) : Prop :=
  v = .absent ∨ v.IsJson

attribute [simp] IsJson.null IsJson.bool IsJson.number IsJson.text

@[simp]
theorem isJson_list {items : List Value} :
    (Value.list items).IsJson ↔ ∀ item ∈ items, item.IsJson :=
  ⟨fun | .list all => all, .list⟩

@[simp]
theorem isJson_record {fields : List (String × Value)} :
    (Value.record fields).IsJson ↔ ∀ field ∈ fields, field.2.IsJson :=
  ⟨fun | .record all => all, .record⟩

/-- The fields of a payload are payloads. -/
theorem isPayload_get {v : Value} (payload : v.IsPayload) (name : String) :
    (v.get name).IsPayload := by
  rcases payload with rfl | json
  · exact .inl rfl
  · cases json with
    | @record fields all =>
      simp only [get]
      cases found : fields.lookup name with
      | none => exact .inl rfl
      | some field => exact .inr (all _ (Fields.mem_of_lookup found))
    | _ => exact .inl rfl

/-- The items of a payload are payloads. -/
theorem isPayload_items {items : List Value} (payload : (Value.list items).IsPayload) :
    ∀ item ∈ items, item.IsPayload := by
  intro item member
  rcases payload with missing | json
  · contradiction
  · exact .inr (isJson_list.mp json item member)

/-- What a check comes across in a payload: its parts, and the operations that its lists lend. -/
inductive IsPart : Value → Prop
  | payload {v : Value} (given : v.IsPayload) : IsPart v
  | method (name : String) : IsPart (.method name)

theorem inherited_isPart : Inherited IsPart where
  absent := .payload (.inl rfl)
  method := .method
  get part name := by
    cases part with
    | payload given => exact .payload (isPayload_get given name)
    | method => exact .payload (.inl rfl)
  items part item member := by
    cases part with
    | payload given => exact .payload (isPayload_items given item member)

/-- Nothing in a payload inherits from a map, since there is none. -/
theorem inheritsMap_of_isPayload {v : Value} (given : v.IsPayload) : v.inheritsMap = false := by
  have parent := isPayload_get given parentField
  unfold inheritsMap
  split
  · rename_i map
    rw [map] at parent
    rcases parent with missing | json
    · contradiction
    · cases json
  · rfl

theorem refusesCopy_of_isPart {v : Value} (part : v.IsPart) : v.refusesCopy = false := by
  cases part with
  | payload given =>
    cases v with
    | record fields => rw [refusesCopy, inheritsMap_of_isPayload given, Bool.false_and]
    | _ => rfl
  | method => rfl

theorem refusesSize_of_isPart {v : Value} (part : v.IsPart) : v.refusesSize = false := by
  cases part with
  | payload given =>
    cases v with
    | record fields => rw [refusesSize, inheritsMap_of_isPayload given, Bool.and_false]
    | map =>
      rcases given with missing | json
      · contradiction
      · cases json
    | _ => rfl
  | method => rfl

theorem not_holdsInteger_of_isJson {v : Value} (json : v.IsJson) : ¬ v.HoldsInteger := by
  induction json with
  | list _ each =>
    rintro (_ | _ | ⟨member, held⟩)
    exact each _ member held
  | record _ each =>
    rintro (_ | _ | _ | ⟨member, held⟩)
    exact each _ member held
  | _ => nofun

theorem not_buries_of_isPart {v : Value} (part : v.IsPart) : ¬ v.Buries := by
  rintro ⟨holds, _⟩
  cases part with
  | payload given =>
    rcases given with rfl | json
    · cases holds
    · exact not_holdsInteger_of_isJson json holds
  | method => cases holds

end Value

namespace Schema

/-- The checker breaks down on no part of a payload. -/
theorem breaksDown_of_isPart {shape : Schema} {v : Value} (part : v.IsPart) :
    shape.breaksDown v = false := by
  induction shape generalizing v with
  | record fields ofFields =>
    have each : fieldsBreakDown fields v = false := by
      induction fields with
      | nil => rfl
      | cons field rest ih =>
        have first := ofFields field (by simp) (Value.inherited_isPart.seen part field.1)
        have others := ih fun other member => ofFields other (by simp [member])
        rw [fieldsBreakDown, Value.refusesSize_of_isPart part, first, others, Bool.and_false]
        rfl
    simp only [breaksDown, Value.refusesCopy_of_isPart part, each, Bool.or_self, Bool.and_false]
  | list item ofItem =>
    cases v with
    | list items =>
      simp only [breaksDown, List.any_eq_false, Bool.not_eq_true]
      exact fun x member => ofItem (Value.inherited_isPart.items part x member)
    | _ => rfl
  | either first second ofFirst ofSecond => simp [breaksDown, ofFirst part, ofSecond part]
  | _ => simp only [breaksDown]

/-- The checker breaks down on no payload, since a payload holds no maps. -/
theorem breaksDown_of_isPayload {shape : Schema} {v : Value} (payload : v.IsPayload) :
    shape.breaksDown v = false :=
  breaksDown_of_isPart (.payload payload)

section
variable {P : Value → Prop} {path : Path} {v : Value}

theorem placed_inherits {violations : List Violation} (own : P v) :
    ∀ finding ∈ placed path v violations, P finding.value := by
  intro finding member
  obtain ⟨violation, _, rfl⟩ := List.mem_map.mp member
  exact own

theorem pairFindings_inherits (inherited : Value.Inherited P) {whole : Value}
    {lacking position : Nat} {items : List Value} (ofWhole : P whole)
    (each : ∀ item ∈ items, P item) :
    ∀ finding ∈ pairFindings path whole lacking position items, P finding.value := by
  intro finding member
  cases pairFault_of_mem member with
  | tooFew => exact ofWhole
  | tooMany => exact ofWhole
  | hole => exact inherited.absent
  | item _ own _ => exact each _ own

theorem itemFindings_inherits (inherited : Value.Inherited P)
    {check : Path → Value → List Finding} {position : Nat} {items : List Value}
    (each : ∀ item ∈ items, P item)
    (ofItem : ∀ path item, P item → ∀ finding ∈ check path item, P finding.value) :
    ∀ finding ∈ itemFindings path check position items, P finding.value := by
  induction items generalizing position with
  | nil => simp [itemFindings]
  | cons head rest ih =>
    intro finding member
    rcases List.mem_append.mp member with own | later
    · split at own
      · obtain rfl := List.mem_singleton.mp own
        exact inherited.absent
      · exact ofItem _ _ (each head (by simp)) finding own
    · exact ih (fun item member => each item (by simp [member])) finding later

theorem fieldProblems_inherits (inherited : Value.Inherited P)
    {fields : List (String × Occurrence × Schema)} (own : P v)
    (ofField : ∀ field ∈ fields, ∀ nullable path w, P w →
      ∀ finding ∈ field.2.2.problems nullable path w, P finding.value) :
    ∀ finding ∈ fieldProblems fields path v, P finding.value := by
  induction fields with
  | nil => simp [fieldProblems]
  | cons field rest ih =>
    have others := ih fun other member => ofField other (by simp [member])
    have held := inherited.seen own field.1
    intro finding member
    obtain ⟨name, occurrence, shape⟩ := field
    rcases List.mem_append.mp member with own | later
    · split at own
      · obtain rfl := List.mem_singleton.mp own
        exact inherited.absent
      · contradiction
      · contradiction
      · exact ofField _ List.mem_cons_self _ _ _ held finding own
    · exact others finding later

/-- Problems of a value are about parts of it. -/
theorem problems_inherit (inherited : Value.Inherited P) {shape : Schema} {nullable : Bool}
    (own : P v) : ∀ finding ∈ shape.problems nullable path v, P finding.value := by
  induction shape generalizing nullable path v with
  | text form => exact placed_inherits own
  | number => exact placed_inherits own
  | count => exact placed_inherits own
  | boolean => cases v <;> simp [problems, own]
  | pair =>
    cases v with
    | list items => exact pairFindings_inherits inherited own (inherited.items own)
    | _ => simp [problems, own]
  | record fields ofFields =>
    simp only [problems]
    split
    · exact fieldProblems_inherits inherited own fun field member _ _ _ => ofFields field member
    · simp [own]
  | list item ofItem =>
    cases v with
    | list items => exact itemFindings_inherits inherited (inherited.items own) fun _ _ => ofItem
    | _ => simp [problems, own]
  | either first second _ _ =>
    simp only [problems]
    split <;> simp [own]

theorem check_inherits (inherited : Value.Inherited P) {shape : Schema} (own : P v) :
    ∀ finding ∈ shape.check v, P finding.value := by
  intro finding found
  by_cases missing : v = .absent
  · subst missing
    obtain rfl := List.mem_singleton.mp found
    exact own
  · have checked : shape.check v = shape.problems false [] v := by
      cases v <;> first | rfl | contradiction
    rw [checked] at found
    exact problems_inherit inherited own finding found

end

/-- The problems of a payload can all be found and shown. -/
theorem reportable_of_isPayload {shape : Schema} {v : Value} (payload : v.IsPayload) :
    shape.Reportable v where
  checkable := breaksDown_of_isPayload payload
  shown finding found :=
    Value.not_buries_of_isPart
      (check_inherits Value.inherited_isPart (.payload payload) finding found)

theorem report_eq_nil_iff {shape : Schema} {root : String} {v : Value} :
    shape.report root v = [] ↔ shape.Fits v := by
  rw [report, List.map_eq_nil_iff, check_eq_nil_iff]

/-- Checking a payload ends with a verdict: its copy is handed on, or all its problems are
reported. -/
theorem outcome_require {shape : Schema} {root : String} {payload : Value}
    (given : payload.IsPayload) (context : Option Context) :
    (shape.require root payload context).outcome =
      if shape.report root payload = [] then .ok (shape.copied payload)
      else .error (.decode (.ofProblems root (shape.report root payload))) := by
  rw [outcome_require_eq, outcome_validate_of_reportable (reportable_of_isPayload given)]
  cases shape.report root payload <;> rfl

/-- Whatever passes the checker has the shape and does not break the checker down. -/
theorem outcome_require_eq_ok_iff {shape : Schema} {root : String} {payload copy : Value}
    {context : Option Context} : (shape.require root payload context).outcome = .ok copy ↔
      (shape.breaksDown payload = false ∧ shape.Fits payload) ∧ copy = shape.copied payload := by
  constructor
  · intro passed
    simp only [require, validate, Traced.outcome_bind] at passed
    cases checkable : shape.breaksDown payload with
    | true =>
      simp [checkable, Except.bind] at passed
    | false =>
      simp only [checkable, Bool.false_eq_true, if_false, Traced.outcome_bind,
        Traced.outcome_pure] at passed
      cases problems : shape.report root payload with
      | nil =>
        rw [problems] at passed
        exact ⟨⟨rfl, report_eq_nil_iff.mp problems⟩, (Except.ok.inj passed).symm⟩
      | cons head rest =>
        rw [problems] at passed
        cases logged : (logProblems context (head :: rest)).outcome <;>
          simp [logged, Except.bind] at passed
  · rintro ⟨⟨checkable, fits⟩, rfl⟩
    rw [require_of_accepts checkable (check_eq_nil_iff.mpr fits)]
    rfl

end Schema
end ChatGateway
