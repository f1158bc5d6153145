import ChatGateway.Validation

/-! Problems that can be logged. Each is logged before the verdict, with the JSON text of its value,
and an integer of unbounded size inside that value has none. `validate_cases` lists the ways in
which a check ends; the payload alone decides which. -/
namespace ChatGateway

namespace Value

/-- The parts of a value have the property if the whole has it. -/
structure Inherited (P : Value → Prop) : Prop where
  absent : P .absent
  method (name : String) : P (.method name)
  get {v : Value} (own : P v) (name : String) : P (v.get name)
  items {items : List Value} (own : P (.list items)) : ∀ item ∈ items, P item

/-- So have the parts of a copy of it, which may come from what it inherits from. -/
theorem Inherited.seen {P : Value → Prop} (inherited : Inherited P) {v : Value} (own : P v)
    (name : String) : P (v.seen name) := by
  have lent {parent : Value} (own : P parent) : P (parent.lent name) := by
    cases parent with
    | list items =>
      simp only [Value.lent]
      split
      · exact inherited.method name
      · exact inherited.absent
    | map entries => exact inherited.absent
    | _ => exact inherited.get own name
  cases v with
  | record fields =>
    have held := inherited.get own name
    rw [Value.seen]
    rw [Value.get] at held
    cases found : fields.lookup name with
    | some field =>
      rw [found] at held
      exact held
    | none => exact lent (inherited.get own parentField)
  | _ => exact inherited.get own name

/-- The value is an integer of unbounded size, or its JSON text would show one. That of a map shows
nothing of its entries. -/
inductive HoldsInteger : Value → Prop
  | integer (n : Int) : HoldsInteger (.integer n)
  | flags (set : FlagSet) : HoldsInteger (.flags set)
  | item {items : List Value} {item : Value} (member : item ∈ items) :
      HoldsInteger item → HoldsInteger (.list items)
  | field {fields : List (String × Value)} {field : String × Value} (member : field ∈ fields) :
      HoldsInteger field.2 → HoldsInteger (.record fields)
  | own {name message stack : String} {own : List (String × Value)} {field : String × Value}
      (member : field ∈ own) : HoldsInteger field.2 → HoldsInteger (.error name message stack own)

/-- The value holds an integer of unbounded size and is more than the integer itself. -/
def Buries (v : Value) : Prop :=
  v.HoldsInteger ∧ ∀ n, v ≠ .integer n

/-- Whatever has no such integer has none in its parts. -/
theorem inherited_not_holdsInteger : Inherited fun v => ¬ v.HoldsInteger where
  absent := nofun
  method := nofun
  get {v} own name held := by
    cases v with
    | record fields =>
      simp only [get] at held
      cases found : fields.lookup name with
      | none =>
        rw [found] at held
        cases held
      | some field =>
        rw [found] at held
        exact own (.field (Fields.mem_of_lookup found) held)
    | map entries =>
      simp only [get] at held
      split at held <;> cases held
    | error errorName message stack fields =>
      simp only [get] at held
      cases found : fields.lookup name with
      | none =>
        simp only [found] at held
        split at held
        · cases held
        · split at held
          · cases held
          · split at held <;> cases held
      | some field =>
        rw [found] at held
        exact own (.own (Fields.mem_of_lookup found) held)
    | _ => cases held
  items own _ member held := own (.item member held)

end Value

namespace Json

theorem itemTexts_fails {items : List Value} {item : Value} (member : item ∈ items)
    (fails : text? item = .error {}) : itemTexts items = .error {} := by
  induction items with
  | nil => contradiction
  | cons head rest ih =>
    cases first : text? head with
    | error =>
      rw [itemTexts, first]
      rfl
    | ok shown =>
      rcases List.mem_cons.mp member with rfl | later
      · rw [fails] at first
        contradiction
      · rw [itemTexts, first, ih later]
        rfl

theorem fieldTexts_fails {fields : List (String × Value)} {field : String × Value}
    (member : field ∈ fields) (fails : text? field.2 = .error {}) :
    fieldTexts fields = .error {} := by
  induction fields with
  | nil => contradiction
  | cons head rest ih =>
    cases first : text? head.2 with
    | error =>
      rw [fieldTexts, first]
      rfl
    | ok shown =>
      rcases List.mem_cons.mp member with rfl | later
      · rw [fails] at first
        contradiction
      · rw [fieldTexts, first]
        cases shown with
        | none => exact ih later
        | some shown =>
          simp only [bind, Except.bind, ih later]

theorem text?_fails {v : Value} (holds : v.HoldsInteger) : text? v = .error {} := by
  induction holds with
  | integer n => rfl
  | flags set => rfl
  | item member _ ih =>
    rw [text?, itemTexts_fails member ih]
    rfl
  | field member _ ih =>
    rw [text?, fieldTexts_fails member ih]
    rfl
  | own member _ ih =>
    rw [text?, fieldTexts_fails member ih]
    rfl

theorem exists_of_itemTexts_fails {items : List Value} (fails : itemTexts items = .error {}) :
    ∃ item ∈ items, text? item = .error {} := by
  induction items with
  | nil => contradiction
  | cons head rest ih =>
    cases first : text? head with
    | error => exact ⟨head, by simp, first⟩
    | ok shown =>
      cases others : itemTexts rest with
      | error =>
        obtain ⟨item, member, fails⟩ := ih others
        exact ⟨item, by simp [member], fails⟩
      | ok texts =>
        rw [itemTexts, first, others] at fails
        contradiction

theorem exists_of_fieldTexts_fails {fields : List (String × Value)}
    (fails : fieldTexts fields = .error {}) : ∃ field ∈ fields, text? field.2 = .error {} := by
  induction fields with
  | nil => contradiction
  | cons head rest ih =>
    cases first : text? head.2 with
    | error => exact ⟨head, by simp, first⟩
    | ok shown =>
      cases others : fieldTexts rest with
      | error =>
        obtain ⟨field, member, fails⟩ := ih others
        exact ⟨field, by simp [member], fails⟩
      | ok texts =>
        rw [fieldTexts, first] at fails
        cases shown <;> simp [bind, Except.bind, others, pure, Except.pure] at fails

/-- A value that is written in parts has no text only if the parts have none. -/
theorem parts_fail {v : Value} {parts : Except NoText (List String)} {write : List String → String}
    (text : text? v = do return some (write (← parts))) (fails : text? v = .error {}) :
    parts = .error {} := by
  rw [text] at fails
  cases parts with
  | error => rfl
  | ok parts => contradiction

/-- A value has no JSON text exactly if it holds an integer of unbounded size. -/
theorem text?_fails_iff {v : Value} : text? v = .error {} ↔ v.HoldsInteger := by
  refine ⟨?_, text?_fails⟩
  refine text?.induct (fun v => text? v = .error {} → v.HoldsInteger)
    (fun fields => ∀ field ∈ fields, text? field.2 = .error {} → field.2.HoldsInteger)
    (fun items => ∀ item ∈ items, text? item = .error {} → item.HoldsInteger)
    nofun nofun nofun nofun nofun (fun n _ => .integer n) nofun ?list ?record
    (fun set _ => .flags set) nofun ?error nofun ?item nofun ?field v
  case list =>
    intro items ofItems fails
    obtain ⟨item, member, fails⟩ := exists_of_itemTexts_fails (parts_fail (by rw [text?]) fails)
    exact .item member (ofItems item member fails)
  case record =>
    intro fields ofFields fails
    obtain ⟨field, member, fails⟩ := exists_of_fieldTexts_fails (parts_fail (by rw [text?]) fails)
    exact .field member (ofFields field member fails)
  case error =>
    intro name message stack own ofOwn fails
    obtain ⟨field, member, fails⟩ := exists_of_fieldTexts_fails (parts_fail (by rw [text?]) fails)
    exact .own member (ofOwn field member fails)
  case item =>
    intro item rest ofItem ofRest
    exact List.forall_mem_cons.mpr ⟨ofItem, ofRest⟩
  case field =>
    intro name value rest ofValue ofRest
    exact List.forall_mem_cons.mpr ⟨ofValue, ofRest⟩

end Json

theorem Entry.shownValue_fails_iff {v : Value} : Entry.shownValue v = .error {} ↔ v.Buries := by
  have compound (other : ∀ n, v ≠ .integer n) (shown : Entry.shownValue v =
      (Json.text? v).bind fun text => .ok ((text.map .text).getD .absent)) :
      Entry.shownValue v = .error {} ↔ v.Buries := by
    rw [shown, Value.Buries, and_iff_left other, ← Json.text?_fails_iff]
    cases Json.text? v <;> simp [Except.bind]
  have simple (shown : Entry.shownValue v = .ok v)
      (plain : v.HoldsInteger → ∃ n, v = .integer n) :
      Entry.shownValue v = .error {} ↔ v.Buries := by
    rw [shown]
    refine ⟨nofun, fun ⟨holds, other⟩ => ?_⟩
    obtain ⟨n, same⟩ := plain holds
    exact absurd same (other n)
  cases v with
  | absent | bool | number | text | method => exact simple rfl nofun
  | integer n => exact simple rfl fun _ => ⟨n, rfl⟩
  | _ => exact compound nofun rfl

/-- The entry about a problem, where its value can be shown. -/
theorem Entry.validationError_eq (field rule : String) (value : Value) (context : Option Context) :
    Entry.validationError field rule value context = (Entry.shownValue value).map fun shown =>
      ⟨.warn, "Validation error", some (Context.extend context [
        ("component", (Context.valueOf context "component").orElse (.text "Validator")),
        ("operation", .text "validation"),
        ("metadata", .record [
          ("field", .text field), ("rule", .text rule), ("value", shown)])])⟩ := by
  cases shown : Entry.shownValue value <;> simp only [validationError, shown] <;> rfl

/-- Problems are all logged unless the value of one buries an integer. -/
theorem outcome_logProblems_of_shown {problems : List Problem} (context : Option Context)
    (shown : ∀ problem ∈ problems, ¬ problem.value.Buries) :
    (logProblems context problems).outcome = .ok () := by
  induction problems with
  | nil => rfl
  | cons head rest ih =>
    simp only [List.forall_mem_cons, ← Entry.shownValue_fails_iff] at shown
    cases value : Entry.shownValue head.value with
    | error => exact absurd value shown.1
    | ok w =>
      simp only [logProblems, Entry.validationError_eq, value, Except.map, Traced.outcome_bind,
        Traced.outcome_write]
      apply ih
      intro problem member buried
      exact shown.2 problem member (Entry.shownValue_fails_iff.mpr buried)

theorem outcome_logProblems_of_buried {problems : List Problem} (context : Option Context)
    {problem : Problem} (member : problem ∈ problems) (buried : problem.value.Buries) :
    (logProblems context problems).outcome = .error .noText := by
  induction problems with
  | nil => contradiction
  | cons head rest ih =>
    cases value : Entry.shownValue head.value with
    | error =>
      simp only [logProblems, Entry.validationError_eq, value, Except.map, Traced.outcome_bind,
        Traced.outcome_fail]
      rfl
    | ok w =>
      simp only [logProblems, Entry.validationError_eq, value, Except.map, Traced.outcome_bind,
        Traced.outcome_write]
      rcases List.mem_cons.mp member with rfl | later
      · rw [Entry.shownValue_fails_iff.mpr buried] at value
        contradiction
      · exact ih later

namespace Schema

/-- All problems of the payload can be found and shown. -/
structure Reportable (shape : Schema) (payload : Value) : Prop where
  checkable : shape.breaksDown payload = false
  shown : ∀ finding ∈ shape.check payload, ¬ finding.value.Buries

variable {shape : Schema} {root : String} {payload : Value}

theorem validate_of_checkable (checkable : shape.breaksDown payload = false)
    (context : Option Context) : shape.validate root payload context =
      logProblems context (shape.report root payload) >>= fun _ =>
        pure (shape.report root payload) := by
  rw [validate, checkable]
  rfl

theorem log_validate (checkable : shape.breaksDown payload = false) (context : Option Context) :
    (shape.validate root payload context).log =
      (logProblems context (shape.report root payload)).log := by
  rw [validate_of_checkable checkable]
  cases logged : (logProblems context (shape.report root payload)).outcome with
  | error failure => rw [Traced.log_bind_of_error logged]
  | ok done =>
    rw [Traced.log_bind_of_ok logged]
    exact List.append_nil _

theorem validate_of_breaksDown (broken : shape.breaksDown payload = true)
    (context : Option Context) : shape.validate root payload context = ⟨[], .error .noSize⟩ := by
  rw [validate, broken]
  rfl

theorem outcome_validate_of_reportable (reportable : shape.Reportable payload)
    (context : Option Context) :
    (shape.validate root payload context).outcome = .ok (shape.report root payload) := by
  have logged : (logProblems context (shape.report root payload)).outcome = .ok () := by
    apply outcome_logProblems_of_shown
    intro problem member
    obtain ⟨finding, found, rfl⟩ := List.mem_map.mp member
    exact reportable.shown finding found
  rw [validate_of_checkable reportable.checkable, Traced.outcome_bind, logged]
  rfl

theorem outcome_validate_of_buried (checkable : shape.breaksDown payload = false)
    {finding : Finding} (found : finding ∈ shape.check payload) (buried : finding.value.Buries)
    (context : Option Context) :
    (shape.validate root payload context).outcome = .error .noText := by
  have lost := @outcome_logProblems_of_buried _ context (finding.report root)
    (List.mem_map_of_mem found) buried
  rw [validate_of_checkable checkable, Traced.outcome_bind]
  simp only [report, lost, Except.bind]

/-- The check of a payload ends in one of three ways. -/
theorem validate_cases (shape : Schema) (payload : Value) :
    shape.Reportable payload ∨ shape.breaksDown payload = true ∨
      shape.breaksDown payload = false ∧ ∃ finding ∈ shape.check payload, finding.value.Buries := by
  by_cases broken : shape.breaksDown payload = true
  · exact .inr (.inl broken)
  · have checkable := Bool.eq_false_iff.mpr broken
    by_cases buried : ∃ finding ∈ shape.check payload, finding.value.Buries
    · exact .inr (.inr ⟨checkable, buried⟩)
    · refine .inl ⟨checkable, ?_⟩
      intro finding found holds
      exact buried ⟨finding, found, holds⟩

/-- What the check gives does not depend on the context. -/
theorem outcome_validate_indifferent (shape : Schema) (root : String) (payload : Value)
    (one other : Option Context) : (shape.validate root payload one).outcome =
      (shape.validate root payload other).outcome := by
  rcases validate_cases shape payload with reportable | broken | ⟨checkable, finding, found, buried⟩
  · rw [outcome_validate_of_reportable reportable, outcome_validate_of_reportable reportable]
  · rw [validate_of_breaksDown broken, validate_of_breaksDown broken]
  · rw [outcome_validate_of_buried checkable found buried,
      outcome_validate_of_buried checkable found buried]

/-- What follows from the problems that were found: the copy is handed on if there are none. -/
def verdictOn (root : String) (copy : Value) : List Problem → Except Failure Value
  | [] => .ok copy
  | problems => .error (.decode (.ofProblems root problems))

theorem outcome_require_eq (context : Option Context) :
    (shape.require root payload context).outcome =
      (shape.validate root payload context).outcome.bind
        (verdictOn root (shape.copied payload)) := by
  rw [require, Traced.outcome_bind]
  congr 1
  funext problems
  cases problems <;> rfl

theorem log_require (context : Option Context) :
    (shape.require root payload context).log = (shape.validate root payload context).log := by
  rw [require]
  cases checked : (shape.validate root payload context).outcome with
  | error failure => rw [Traced.log_bind_of_error checked]
  | ok problems =>
    rw [Traced.log_bind_of_ok checked]
    cases problems <;> exact List.append_nil _

theorem outcome_require_indifferent (shape : Schema) (root : String) (payload : Value)
    (one other : Option Context) : (shape.require root payload one).outcome =
      (shape.require root payload other).outcome := by
  rw [outcome_require_eq, outcome_require_eq, outcome_validate_indifferent _ _ _ one other]

end Schema

end ChatGateway
