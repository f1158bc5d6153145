import ChatGateway.Proofs.Completion

/-! Refusals for missing fields. A payload in which no record inherits is refused for them exactly
if further fields would make it acceptable, and the problems then tell what is missing. -/
namespace ChatGateway
namespace Schema

theorem missingPlaces_of_not_lacks {shape : Schema} {nullable : Bool} {v : Value}
    (whole : ∀ path, ¬ shape.Lacks v path) : missingPlaces (shape.problems nullable [] v) = [] := by
  rw [List.eq_nil_iff_forall_not_mem]
  intro path member
  exact whole path (mem_missingPlaces_problems.mp member)

theorem nodup_missingPlaces_findings {shape : Schema} {occurrence : Occurrence} {v : Value}
    (ofShape : ∀ nullable, (missingPlaces (shape.problems nullable [] v)).Nodup) :
    (missingPlaces (findings occurrence shape [] v)).Nodup := by
  cases v with
  | absent => cases occurrence <;> simp [findings, missingPlaces]
  | null =>
    cases occurrence with
    | nullable => exact List.nodup_nil
    | _ => exact ofShape _
  | _ => exact ofShape _

/-- Each missing field is found once. -/
theorem nodup_missingPlaces {shape : Schema} (sound : shape.completable = true) {nullable : Bool}
    {v : Value} : (missingPlaces (shape.problems nullable [] v)).Nodup := by
  induction shape generalizing nullable v with
  | record fields ofFields =>
    by_cases record : v.isRecord = true
    · obtain ⟨distinct, sound⟩ := completable_record.mp sound
      rw [problems_record record]
      apply nodup_missingPlaces_sections
      · rw [List.map_map]
        have keys := distinct.map fun _ _ => Segment.key.inj
        rwa [List.map_map] at keys
      · intro part listed
        obtain ⟨field, member, rfl⟩ := List.mem_map.mp listed
        apply nodup_missingPlaces_findings
        intro nullable
        cases fieldCompletable_of_mem sound field member with
        | buttons _ =>
          rw [missingPlaces_of_not_lacks fun _ => not_lacks_choices]
          exact List.nodup_nil
        | other _ _ own => exact ofFields _ member own
    · rw [problems, if_neg record]
      exact List.nodup_nil
  | list item ofItem =>
    cases v with
    | list items =>
      rw [problems_list]
      apply nodup_missingPlaces_sections
      · rw [List.map_map]
        have positions : (items.zipIdx.map Prod.snd).Nodup := by
          rw [List.zipIdx_map_snd]
          exact List.nodup_range'
        have segments := positions.map fun i k
            (same : Segment.index (.ofNat i) = .index (.ofNat k)) =>
          Number.ofNat_injective (Segment.index.inj same)
        rwa [List.map_map] at segments
      · intro part listed
        obtain ⟨⟨x, i⟩, member, rfl⟩ := List.mem_map.mp listed
        by_cases hole : x = .absent
        · subst hole
          exact List.nodup_nil
        · rw [itemProblems_of_there hole]
          exact ofItem (by simpa only [completable] using sound)
    | _ => exact List.nodup_nil
  | either => contradiction
  | _ =>
    rw [missingPlaces_of_not_lacks]
    · exact List.nodup_nil
    · intro path lacks
      cases lacks

end Schema

namespace RecordType

theorem completable_schema (r : RecordType) : r.schema.completable = true := by
  cases r <;> rfl

/-- The decoder accepts the payload in some call. -/
def Takes (r : RecordType) (payload : Value) : Prop :=
  ∃ call entity, (r.decode payload call).outcome = .ok entity

theorem takes_of_fits {r : RecordType} {payload : Value} (json : payload.IsJson)
    (fits : r.schema.Fits payload) : r.Takes payload := by
  have configured : r.Configured (.within none) := fun _ => ⟨_, rfl⟩
  have checkable := @Schema.breaksDown_of_isPayload r.schema payload (.inr json)
  exact ⟨_, _, outcome_decode_of_fits configured checkable fits⟩

/-- Only the schema refuses a payload with a list of problems. -/
theorem not_fits_of_rejected {r : RecordType} {call : Call} {payload : Value} {error : DecodeError}
    (given : payload.IsPayload)
    (rejected : (r.decode payload call).outcome = .error (.decode error)) :
    ¬ r.schema.Fits payload := by
  intro fits
  have checkable := @Schema.breaksDown_of_isPayload r.schema payload given
  have accepted (configured : r.Configured call) : False := by
    rw [outcome_decode_of_fits configured checkable fits] at rejected
    contradiction
  by_cases initial : r = ready
  · subst initial
    cases version : Ready.expectedVersion (.record call.options) call.env with
    | ok expected => exact accepted fun _ => ⟨expected, version⟩
    | error failure =>
      obtain ⟨raw, _, rfl⟩ := Ready.invalidVersion_of_expectedVersion version
      have decoded : (decode ready payload call).outcome = .error (.invalidVersion raw) := by
        rw [decode, Ready.outcome_decode_of_fits checkable fits, version]
        rfl
      cases decoded.symm.trans rejected
  · exact accepted (configured_of_ne initial)

theorem rule_eq_missingRule {violation : Violation} :
    violation.rule = DecodeError.missingRule ↔ violation = .missing := by
  cases violation <;> simp [Violation.rule, DecodeError.missingRule]

theorem code_missing_iff {shape : Schema} {root : String} {payload : Value} :
    (DecodeError.ofProblems root (shape.report root payload)).code = .missingRequiredField ↔
      shape.check payload ≠ [] ∧ ∀ finding ∈ shape.check payload, finding.violation = .missing := by
  have only : DecodeError.missingOnly (shape.report root payload) = true ↔
      shape.check payload ≠ [] ∧
        ∀ finding ∈ shape.check payload, finding.violation = .missing := by
    simp [DecodeError.missingOnly, Schema.report, Finding.report, rule_eq_missingRule]
  rw [← only, DecodeError.ofProblems]
  split
  · rename_i missing
    simp [missing]
  · rename_i other
    simp [other]

/-- What a record lacks has a name. -/
theorem render_of_lacks {r : RecordType} {v : Value} {path : Path} (lacks : r.schema.Lacks v path) :
    path.render ≠ "" := by
  obtain ⟨fields, shape, named⟩ := r.schema_eq_record
  rw [shape] at lacks
  cases lacks with
  | here member _ _ => exact Path.render_key (named _ (List.mem_map_of_mem member)) []
  | field member _ _ => exact Path.render_key (named _ (List.mem_map_of_mem member)) _

/-- If nothing else is wrong, the problems are told by the places of what is missing. -/
theorem fields_of_only_missing {r : RecordType} {root : String} {payload : Value}
    (json : payload.IsJson)
    (only : ∀ finding ∈ r.schema.check payload, finding.violation = .missing) :
    ∃ places : List Path,
      (r.schema.report root payload).map (·.field) = places.map Path.render ∧ places.Nodup ∧
        ∀ path, path ∈ places ↔ r.schema.Lacks payload path := by
  have checked := r.schema.check_of_isJson json
  have all : missingPlaces (r.schema.check payload) =
      (r.schema.check payload).map Finding.path := by
    rw [missingPlaces, List.filter_eq_self.mpr]
    intro finding member
    exact decide_eq_true (only finding member)
  refine ⟨missingPlaces (r.schema.check payload), ?_, ?_, ?_⟩
  · rw [all, Schema.report, List.map_map, List.map_map]
    apply List.map_congr_left
    intro finding member
    have lacks : r.schema.Lacks payload finding.path := by
      apply (@Schema.mem_missingPlaces_problems r.schema false _ _).mp
      rw [← checked]
      exact mem_missingPlaces.mpr ⟨finding, member, only finding member, rfl⟩
    simp [Finding.report, render_of_lacks lacks]
  · rw [checked]
    exact Schema.nodup_missingPlaces r.completable_schema
  · intro path
    rw [checked]
    exact Schema.mem_missingPlaces_problems

/-- A payload that is refused for missing fields is not there itself, or further fields in its
records, at any depth, would make it acceptable. Where no record has the field that makes copies
inherit, it is refused for missing fields whenever that is so: what is inherited may be wrong and
can be covered by a further field. Any other refusal is structural. The problems of a refusal for
missing fields are the places of the required fields that are missing, each of them once. -/
theorem decode_missing (r : RecordType) (call : Call) (payload : Value) (given : payload.IsPayload)
    (error : DecodeError) (rejected : (r.decode payload call).outcome = .error (.decode error)) :
    (error.code = .missingRequiredField →
      payload = .absent ∨ ∃ completed, Supplemented payload completed ∧ r.Takes completed) ∧
    (¬ payload.NamesParent →
      (payload = .absent ∨ ∃ completed, Supplemented payload completed ∧ r.Takes completed) →
        error.code = .missingRequiredField) ∧
    (error.code ≠ .missingRequiredField → error.code = .structuralDecodeError) ∧
    (payload = .absent → error.details.map (·.field) = [r.root]) ∧
    (error.code = .missingRequiredField → payload ≠ .absent →
      ∃ places : List Path, error.details.map (·.field) = places.map Path.render ∧ places.Nodup ∧
        ∀ path, path ∈ places ↔ r.schema.Lacks payload path) := by
  have misfit := not_fits_of_rejected given rejected
  have named : error = .ofProblems r.root (r.schema.report r.root payload) := by
    rw [outcome_decode_of_not_fits given misfit] at rejected
    cases rejected
    rfl
  have code : error.code = .missingRequiredField ↔
      ∀ finding ∈ r.schema.check payload, finding.violation = .missing := by
    rw [named, code_missing_iff]
    exact and_iff_right fun none => misfit (Schema.check_eq_nil_iff.mp none)
  have details : error.details = r.schema.report r.root payload := by
    rw [named]
    rfl
  refine ⟨?_, ?_, ?_, ?_, ?_⟩
  · rw [code]
    intro only
    rcases given with rfl | json
    · exact .inl rfl
    · right
      have fillable := Schema.fillable_of_completable r.completable_schema
      rw [r.schema.check_of_isJson json] at only
      obtain ⟨completed, more, good, fits⟩ := fillable.completed false payload json only
      exact ⟨completed, more, takes_of_fits good fits⟩
  · rw [code]
    rintro plain (rfl | ⟨completed, more, call, entity, taken⟩) finding member
    · obtain rfl := List.mem_singleton.mp member
      rfl
    · obtain ⟨_, fits, _⟩ := accepted_of_decode taken
      have only := Schema.missing_of_supplemented r.completable_schema plain more fits false
      rcases given with rfl | json
      · obtain rfl := List.mem_singleton.mp member
        rfl
      · rw [r.schema.check_of_isJson json] at member
        exact only finding member
  · intro other
    rw [named, DecodeError.ofProblems] at other ⊢
    split
    · rename_i missing
      simp [missing] at other
    · rfl
  · rintro rfl
    rw [details]
    rfl
  · intro missing there
    rw [details]
    exact fields_of_only_missing (given.resolve_left there) (code.mp missing)

/-- A user that lacks an identifier, and what a guild knows of it is incomplete as well. -/
def nameless : Value := .record [
  ("username", .text "ann"), ("discriminator", .text "7"),
  ("member", .record [("roles", .list []), ("deaf", .bool true)])]

theorem decode_missing_nameless : nameless.IsPayload ∧
    ∃ error, (User.decode nameless none).outcome = .error (.decode error) ∧
      error.code = .missingRequiredField ∧
      (∃ completed, Supplemented nameless completed ∧ user.Takes completed) ∧
      ∃ places : List Path, error.details.map (·.field) = places.map Path.render ∧
        [.key "member", .key "mute"] ∈ places := by
  have given : nameless.IsPayload := .inr (by simp [nameless])
  obtain ⟨error, rejected⟩ : ∃ error, (User.decode nameless none).outcome =
      .error (.decode error) := ⟨_, rfl⟩
  obtain ⟨completable, _, _, _, places⟩ :=
    decode_missing .user (.within none) nameless given error rejected
  have missing : error.code = .missingRequiredField := by
    obtain rfl := Failure.decode.inj (Except.error.inj rejected)
    rfl
  obtain ⟨places, fields, _, lacks⟩ := places missing Value.noConfusion
  refine ⟨given, error, rejected, missing, ?_, places, fields, ?_⟩
  · exact (completable missing).resolve_left Value.noConfusion
  · apply (lacks _).mpr
    have mute : Schema.partialMember.Lacks (nameless.get "member") [.key "mute"] :=
      @Schema.Lacks.here _ "mute" .boolean _ (by simp) rfl rfl
    exact @Schema.Lacks.field _ "member" .nullable .partialMember _ _ (by simp) rfl mute

/-- An activity that inherits a name that is none. A name of its own would make it acceptable. -/
def misnamed : Value := .record [("__proto__", .record [("name", .ofNat 7)])]

example : ∃ error, (Activity.decode misnamed none).outcome = .error (.decode error) ∧
    error.code = .structuralDecodeError :=
  ⟨_, rfl, rfl⟩

end RecordType
end ChatGateway
