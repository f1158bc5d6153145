import ChatGateway.Proofs.Places

/-! Reports of nested records. The problems under a place are those that the record there has on its
own, with the place written before each field, and changing the record there changes no others. -/
namespace ChatGateway

namespace Path

theorem step_append {text : String} (named : text ≠ "") (before : String) (segment : Segment) :
    step (before ++ text) segment = before ++ step text segment := by
  have some : text.isEmpty = false := by simpa using named
  have more : (before ++ text).isEmpty = false := by simp [named]
  cases segment with
  | key name => simp only [step, some, more, Bool.false_eq_true, if_false, String.append_assoc]
  | index position => simp only [step, String.append_assoc]

theorem step_ne_empty {text : String} (named : text ≠ "") (segment : Segment) :
    step text segment ≠ "" := by
  have some : text.isEmpty = false := by simpa using named
  cases segment with
  | key name => simp [step, some, named]
  | index position => simp [step, named]

theorem foldl_step_append {text : String} (named : text ≠ "") (before : String) (path : Path) :
    path.foldl step (before ++ text) = before ++ path.foldl step text := by
  induction path generalizing text with
  | nil => rfl
  | cons segment rest ih =>
    rw [List.foldl_cons, List.foldl_cons, step_append named, ih (step_ne_empty named segment)]

theorem foldl_step_ne_empty {text : String} (named : text ≠ "") (path : Path) :
    path.foldl step text ≠ "" := by
  induction path generalizing text with
  | nil => exact named
  | cons segment rest ih => exact ih (step_ne_empty named segment)

theorem render_key {name : String} (named : name ≠ "") (rest : Path) :
    render (.key name :: rest) ≠ "" :=
  foldl_step_ne_empty named rest

/-- A field of a part is set off from the place of the part by a dot. -/
theorem render_append {place : Path} (placed : place.render ≠ "") {name : String}
    (named : name ≠ "") (rest : Path) :
    render (place ++ .key name :: rest) = place.render ++ "." ++ render (.key name :: rest) := by
  have some : place.render.isEmpty = false := by simpa using placed
  have start : step "" (.key name) = name := rfl
  rw [render, List.foldl_append, List.foldl_cons, render, render, List.foldl_cons, start]
  change rest.foldl step (step place.render (.key name)) = _
  rw [step, some]
  exact foldl_step_append named _ rest

end Path

/-- What `alone` says of a record on its own, where it is called `root`, `inside` says of it as the
part at `place`: of the whole part, or of a field of it, whose name comes after the place then. -/
structure Problem.Moved (place root : String) (alone inside : Problem) : Prop where
  rule : inside.rule = alone.rule
  value : inside.value = alone.value
  text : ∃ said,
    alone.field = root ∧ alone.message = "\"value\" " ++ said ∧
      inside.field = place ∧ inside.message = "\"" ++ place ++ "\" " ++ said ∨
    alone.message = "\"" ++ alone.field ++ "\" " ++ said ∧
      inside.field = place ++ "." ++ alone.field ∧
      inside.message = "\"" ++ place ++ "." ++ alone.field ++ "\" " ++ said

theorem Finding.report_of_named {finding : Finding} {label : String} (named : label ≠ "")
    (shown : finding.path.render = label) (root : String) :
    finding.report root = ⟨label, finding.violation.rule,
      "\"" ++ label ++ "\" " ++ finding.violation.predicate, finding.value⟩ := by
  have some : label.isEmpty = false := by simpa using named
  have there : finding.path.isEmpty = false := by
    rw [List.isEmpty_eq_false_iff]
    intro whole
    rw [whole] at shown
    exact named shown.symm
  simp only [Finding.report, Violation.message, shown, there, some, Bool.false_eq_true, if_false]

theorem Finding.report_of_whole {finding : Finding} (whole : finding.path = []) (root : String) :
    finding.report root = ⟨root, finding.violation.rule,
      "\"value\" " ++ finding.violation.predicate, finding.value⟩ := by
  simp [Finding.report, Violation.message, whole, Path.render]

theorem Finding.moved {finding : Finding} {place : Path} (placed : place.render ≠ "")
    (owned : finding.path = [] ∨ ∃ name rest, name ≠ "" ∧ finding.path = .key name :: rest)
    (root whole : String) : Problem.Moved place.render root (finding.report root)
      ((finding.under place).report whole) := by
  rcases owned with self | ⟨name, rest, named, own⟩
  · have shown : (finding.under place).path.render = place.render := by
      rw [Finding.under, self, List.append_nil]
    rw [report_of_whole self, report_of_named placed shown]
    exact ⟨rfl, rfl, _, .inl ⟨rfl, rfl, rfl, rfl⟩⟩
  · have shown :
        (finding.under place).path.render = place.render ++ "." ++ finding.path.render := by
      rw [Finding.under, own, Path.render_append placed named]
    have labelled : finding.path.render ≠ "" := own ▸ Path.render_key named rest
    rw [report_of_named labelled rfl, report_of_named (by simp [labelled]) shown]
    exact ⟨rfl, rfl, _, .inr ⟨rfl, rfl, rfl⟩⟩

namespace Schema

/-- The problems under a place of a `root` payload, as they are reported. -/
def reportUnder (shape : Schema) (root : String) (place : Path) (payload : Value) : List Problem :=
  ((shape.check payload).filter fun finding => place <+: finding.path).map (Finding.report root)

theorem outcome_validate {shape : Schema} {payload : Value} (given : payload.IsPayload)
    (root : String) (context : Option Context) :
    (shape.validate root payload context).outcome = .ok (shape.report root payload) :=
  outcome_validate_of_reportable (reportable_of_isPayload given) context

/-- What is wrong with a record is wrong with the whole of it or with a field. -/
theorem path_of_mem_check {fields : List (String × Occurrence × Schema)} {v : Value}
    {finding : Finding} (member : finding ∈ (Schema.record fields).check v) :
    finding.path = [] ∨
      ∃ name rest, name ∈ fields.map Prod.fst ∧ finding.path = .key name :: rest := by
  rw [check_eq_findings] at member
  by_cases record : v.isRecord = true
  · rw [findings_record record] at member
    obtain ⟨part, listed, inside, _, rfl⟩ := mem_sections.mp member
    obtain ⟨field, own, rfl⟩ := List.mem_map.mp listed
    exact .inr ⟨field.1, inside.path, List.mem_map_of_mem own, rfl⟩
  · exact .inl (path_of_not_record record member)

theorem Part.trans {first second third : Occurrence} {inner middle outer : Schema}
    {path deeper : Path} (upper : Part second middle third outer path)
    (lower : Part first inner second middle deeper) :
    Part first inner third outer (path ++ deeper) := by
  induction upper with
  | whole => exact lower
  | field distinct member _ ih => exact .field distinct member ih
  | item _ ih => exact .item ih

end Schema

theorem DifferUnder.filter_first {place : Path} {xs ys first second : List Finding}
    (differ : DifferUnder place xs ys first second) :
    first.filter (fun finding => place <+: finding.path) = xs.map (Finding.under place) := by
  obtain ⟨before, after, rfl, -, elsewhere⟩ := differ
  have outside (part : List Finding) (listed : part ⊆ before ++ after) :
      part.filter (fun finding => place <+: finding.path) = [] := by
    apply List.filter_eq_nil_iff.mpr
    intro finding member
    simpa using elsewhere finding (listed member)
  have inside : (xs.map (Finding.under place)).filter (fun finding => place <+: finding.path) =
      xs.map (Finding.under place) := by
    apply List.filter_eq_self.mpr
    intro finding member
    obtain ⟨own, _, rfl⟩ := List.mem_map.mp member
    exact decide_eq_true (List.prefix_append place own.path)
  rw [List.filter_append, List.filter_append, outside before (List.subset_append_left _ _),
    outside after (List.subset_append_right _ _), inside, List.nil_append, List.append_nil]

namespace RecordType

/-- Where the payload of one record has that of another. -/
inductive Nesting : RecordType → RecordType → Path → Prop
  | presence (i : Nat) : Nesting ready presence [.key "presences", .index (.ofNat i)]
  | recipient (i k : Nat) : Nesting ready user
      [.key "private_channels", .index (.ofNat i), .key "recipients", .index (.ofNat k)]
  | account : Nesting ready currentUser [.key "user"]
  | activity (i : Nat) : Nesting presence activity [.key "activities", .index (.ofNat i)]
  | presenceUser : Nesting presence presenceUser [.key "user"]
  | startLimit : Nesting botGateway sessionStartLimit [.key "session_start_limit"]
  | trans {outer middle inner : RecordType} {path deeper : Path} : Nesting outer middle path →
      Nesting middle inner deeper → Nesting outer inner (path ++ deeper)

theorem schema_eq_record (r : RecordType) :
    ∃ fields, r.schema = .record fields ∧ ∀ name ∈ fields.map Prod.fst, name ≠ "" := by
  cases r <;> exact ⟨_, rfl, by decide⟩

theorem Nesting.part {outer inner : RecordType} {path : Path} (nesting : Nesting outer inner path) :
    Schema.Part .required inner.schema .required outer.schema path := by
  induction nesting with
  | presence i =>
    refine .field (by decide) (?_ : ("presences", .optional, .list .presence) ∈ _) (.item .whole)
    simp
  | recipient i k =>
    refine .field (by decide)
      (?_ : ("private_channels", .optional, .list .privateChannel) ∈ _) (.item ?_)
    · simp
    · refine .field (by decide) (?_ : ("recipients", .required, .list .user) ∈ _) (.item .whole)
      simp
  | account =>
    refine .field (by decide) (?_ : ("user", .required, .currentUser) ∈ _) .whole
    simp
  | activity i =>
    refine .field (by decide) (?_ : ("activities", .optional, .list .activity) ∈ _) (.item .whole)
    simp
  | presenceUser =>
    refine .field (by decide) (?_ : ("user", .required, .presenceUser) ∈ _) .whole
    simp
  | startLimit =>
    refine .field (by decide)
      (?_ : ("session_start_limit", .required, .sessionStartLimit) ∈ _) .whole
    simp
  | trans _ _ upper lower => exact upper.trans lower

theorem Nesting.render_ne_empty {outer inner : RecordType} {path : Path}
    (nesting : Nesting outer inner path) : path.render ≠ "" := by
  obtain ⟨name, rest, named, rfl⟩ : ∃ name rest, name ≠ "" ∧ path = .key name :: rest := by
    induction nesting with
    | trans _ _ upper _ =>
      obtain ⟨name, rest, named, rfl⟩ := upper
      exact ⟨name, _, named, rfl⟩
    | _ => exact ⟨_, _, by decide, rfl⟩
  exact Path.render_key named rest

/-- Reports are complete and local. Any JSON payload gets a report; that of a record is made up of
the problems of its fields, in schema order; under the place of a nested record it has the problems
of that record on its own, moved there; and payloads that differ in one part only, be it a record, a
list item or a single field, have the same problems elsewhere. What a record holds at a place is
what is seen of it there, be it its own or inherited. -/
theorem report_local (r : RecordType) :
    (∀ payload context, payload.IsPayload →
      (r.schema.validate r.root payload context).outcome = .ok (r.schema.report r.root payload)) ∧
    (∃ fields, r.schema = .record fields ∧
      ∀ payload, payload.isRecord = true →
        r.schema.report r.root payload = fields.flatMap fun (name, occurrence, shape) =>
          (Schema.findings occurrence shape [] (payload.seen name)).map fun finding =>
            (finding.under [.key name]).report r.root) ∧
    (∀ inner place, Nesting r inner place →
      ∀ payload part, Value.Apart part part place payload payload →
        List.Forall₂ (Problem.Moved place.render inner.root)
          (inner.schema.report inner.root part) (r.schema.reportUnder r.root place payload)) ∧
    ∀ occurrence shape place,
      Schema.Part occurrence shape .required r.schema place →
      ∀ first second x y, Value.Apart x y place first second →
        DifferUnder place (Schema.findings occurrence shape [] x)
          (Schema.findings occurrence shape [] y) (r.schema.check first)
          (r.schema.check second) := by
  refine ⟨?_, ?_, ?_, ?_⟩
  · intro payload context given
    exact Schema.outcome_validate given r.root context
  · obtain ⟨fields, shape, _⟩ := r.schema_eq_record
    refine ⟨fields, shape, ?_⟩
    intro payload record
    rw [shape, Schema.report, Schema.check_eq_findings, Schema.findings_record record,
      Schema.sections, List.flatMap_map, List.map_flatMap]
    simp only [List.map_map]
    rfl
  · intro inner place nesting payload part apart
    obtain ⟨fields, shape, named⟩ := inner.schema_eq_record
    have differ := Schema.findings_apart nesting.part apart
    rw [Schema.reportUnder, Schema.check_eq_findings, differ.filter_first, List.map_map,
      Schema.report, ← Schema.check_eq_findings, List.forall₂_map_left_iff,
      List.forall₂_map_right_iff, List.forall₂_same]
    intro finding member
    apply Finding.moved nesting.render_ne_empty
    rw [shape] at member
    rcases Schema.path_of_mem_check member with whole | ⟨name, rest, listed, own⟩
    · exact .inl whole
    · exact .inr ⟨name, rest, named name listed, own⟩
  · intro occurrence shape place reached first second x y apart
    rw [Schema.check_eq_findings, Schema.check_eq_findings]
    exact Schema.findings_apart reached apart

/-- A state with two presences, of which the second has a user with two problems. -/
def muddled : Value := .record [
  ("presences", .list [
    .record [("status", .text "idle")],
    .record [("status", .text "away"),
      ("user", .record [("id", .ofNat 5), ("bot", .text "yes")])]])]

theorem report_local_muddled : muddled.IsPayload ∧
    ∃ part place, Nesting ready presenceUser place ∧
      Value.Apart part part place muddled muddled ∧
      List.Forall₂ (Problem.Moved place.render "user") (Schema.presenceUser.report "user" part)
        (Schema.ready.reportUnder "ready" place muddled) ∧
      DifferUnder place (Schema.findings .required .presenceUser [] part)
        (Schema.findings .required .presenceUser [] part) (Schema.ready.check muddled)
        (Schema.ready.check muddled) := by
  have nesting : Nesting ready presenceUser
      ([.key "presences", .index (.ofNat 1)] ++ [.key "user"]) := .trans (.presence 1) .presenceUser
  have payload : muddled.IsPayload := .inr (by simp [muddled, Value.ofNat])
  have apart : Value.Apart (.record [("id", .ofNat 5), ("bot", .text "yes")])
      (.record [("id", .ofNat 5), ("bot", .text "yes")])
      ([.key "presences", .index (.ofNat 1)] ++ [.key "user"]) muddled muddled := by
    refine .field rfl rfl (fun _ _ => rfl) ?_
    refine @Value.Apart.item _ _ [_] [] _ _ _ Value.noConfusion Value.noConfusion ?_
    exact .field rfl rfl (fun _ _ => rfl) .whole
  obtain ⟨_, _, moved, elsewhere⟩ := report_local ready
  exact ⟨payload, _, _, nesting, apart, moved _ _ nesting _ _ apart,
    elsewhere _ _ _ nesting.part _ _ _ _ apart⟩

end RecordType
end ChatGateway
