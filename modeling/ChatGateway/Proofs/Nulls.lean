import ChatGateway.Proofs.Agreement
import ChatGateway.Proofs.Places

/-! Null in the place of a field that is left out. Reading takes the one for the other everywhere.
Checking does so where the schema allows for null; at any other field that may be left out it
refuses the payload for the null alone. -/
namespace ChatGateway

/-- A value of the second shape has at the path what may hold the first one, or is that itself. The
path may lead through records among the choices of a list item. -/
inductive Schema.FieldAt (occurrence : Occurrence) (shape : Schema) :
    Occurrence → Schema → Path → Prop
  | whole : FieldAt occurrence shape occurrence shape []
  | field {outer inner : Occurrence} {fields : List (String × Occurrence × Schema)} {name : String}
      {field : Schema} {path : Path} : (fields.map Prod.fst).Nodup → (name, inner, field) ∈ fields →
      FieldAt occurrence shape inner field path →
      FieldAt occurrence shape outer (.record fields) (.key name :: path)
  | item {outer : Occurrence} {item : Schema} {position : Number} {path : Path} :
      FieldAt occurrence shape .required item path →
      FieldAt occurrence shape outer (.list item) (.index position :: path)
  | choice {outer : Occurrence} {form : TextForm} {second : Schema} {segment : Segment}
      {path : Path} : FieldAt occurrence shape .required second (segment :: path) →
      FieldAt occurrence shape outer (.either (.text form) second) (segment :: path)

namespace Value

theorem reach_absent (names : List String) : Value.absent.reach names = .absent := by
  induction names with
  | nil => rfl
  | cons _ _ ih => exact ih

theorem Apart.eq_of_nil {x y v w : Value} (apart : Apart x y [] v w) : v = x ∧ w = y := by
  cases apart
  exact ⟨rfl, rfl⟩

/-- A text at the end of a path of names stays where null is put in for something missing. -/
theorem reach_of_apart {names : List String} {s : String} {path : Path} {v w : Value}
    (found : v.reach names = .text s) (apart : Apart .absent .null path v w) :
    w.reach names = .text s := by
  induction names generalizing path v w with
  | nil =>
    obtain rfl : v = .text s := found
    cases apart
    contradiction
  | cons first rest ih =>
    have inside : (v.seen first).reach rest = .text s := found
    change (w.seen first).reach rest = .text s
    have nowhere : (Value.absent).reach rest ≠ .text s := by
      rw [reach_absent]
      exact Value.noConfusion
    cases apart with
    | whole => exact absurd inside nowhere
    | item => exact absurd inside nowhere
    | @field name _ _ _ _ _ same apart =>
      by_cases own : first = name
      · subst own
        exact ih inside apart
      · rw [same first own]
        exact inside

end Value

namespace Schema

/-- Where a field allows for null, null in its place is let pass. -/
theorem admits_null {shape whole : Schema} {outer : Occurrence} {path : Path} {v w : Value}
    (spot : FieldAt .nullable shape outer whole path) (apart : Value.Apart .absent .null path v w)
    (admitted : Admits outer whole v) : Admits outer whole w := by
  induction spot generalizing v w with
  | whole =>
    cases apart
    exact .inl rfl
  | @field outer inner fields name field path distinct member _ ih =>
    cases apart with
    | field isRecord again same apart =>
      have fits := fits_of_admits (not_vacant_of_isRecord isRecord) admitted
      simp only [Fits, fieldsFit_iff] at fits
      apply admits_of_fits
      simp only [Fits, fieldsFit_iff]
      refine ⟨again, fun other listed => ?_⟩
      by_cases own : other.1 = name
      · obtain rfl := List.inj_on_of_nodup_map distinct listed member own
        exact ih apart (fits.2 _ listed)
      · rw [same _ own]
        exact fits.2 _ listed
  | item _ ih =>
    cases apart with
    | item _ _ apart =>
      have fits := fits_of_admits rfl admitted
      simp only [Fits, Value.list.injEq, exists_eq_left', List.forall_mem_append,
        List.forall_mem_cons] at fits
      apply admits_of_fits
      simp only [Fits, Value.list.injEq, exists_eq_left', List.forall_mem_append,
        List.forall_mem_cons]
      exact ⟨fits.1, ih apart fits.2.1, fits.2.2⟩
  | choice _ ih =>
    have there : v.isVacant = false := by
      cases apart with
      | field isRecord => exact not_vacant_of_isRecord isRecord
      | item => rfl
    have fits := fits_of_admits there admitted
    simp only [Fits] at fits
    apply admits_of_fits
    simp only [Fits]
    rcases fits with ⟨s, rfl, _⟩ | fits
    · cases apart
      contradiction
    · exact .inr (ih apart fits)

/-- An optional field that stands in no choice and in whose place null is the one thing wrong. -/
structure OptionalAt (shape : Schema) (outer : Occurrence) (whole : Schema) (path : Path) :
    Prop where
  part : Part .optional shape outer whole path
  null : ∃ violation ∈ [Violation.notNumber, .notBoolean, .notList],
    findings .optional shape [] .null = [⟨[], violation, .null⟩]

theorem OptionalAt.item {shape item : Schema} {outer : Occurrence} {position : Number} {path : Path}
    (inner : OptionalAt shape .required item path) :
    OptionalAt shape outer (.list item) (.index position :: path) :=
  ⟨.item inner.part, inner.null⟩

theorem path_of_leaf {leaf : Leaf} {occurrence outer : Occurrence} {shape : Schema} {path : Path}
    (spot : FieldAt occurrence shape outer leaf.schema path) : path = [] ∧ occurrence = outer := by
  generalize same : leaf.schema = whole at spot
  cases spot with
  | whole => exact ⟨rfl, rfl⟩
  | _ => cases leaf <;> contradiction

theorem eq_of_nil {occurrence outer : Occurrence} {shape whole : Schema}
    (spot : FieldAt occurrence shape outer whole []) : occurrence = outer ∧ shape = whole := by
  cases spot
  exact ⟨rfl, rfl⟩

/-- Within an atom there is nothing that may be missing but the links of buttons. -/
theorem path_of_atom {a : Atom} {occurrence outer : Occurrence} {shape : Schema} {segment : Segment}
    {path : Path} (spot : FieldAt occurrence shape outer a.schema (segment :: path))
    (missable : occurrence ≠ .required) :
    a = .buttons ∧ occurrence = .nullable ∧
      ∃ position, segment = .index position ∧ path = [.key "url"] := by
  cases a with
  | required leaf | optional leaf => exact absurd (path_of_leaf spot).1 (List.cons_ne_nil _ _)
  | leaves leaf | optionalLeaves leaf =>
    cases spot with
    | item inner => exact absurd (path_of_leaf inner).2 missable
  | buttons =>
    simp only [Atom.schema, free, activityButton] at spot
    cases spot with
    | item inner =>
      cases inner with
      | whole => contradiction
      | choice inner =>
        cases inner with
        | field _ member inner =>
          simp only [List.mem_cons, Prod.mk.injEq, List.not_mem_nil, or_false] at member
          rcases member with ⟨rfl, rfl, rfl⟩ | ⟨rfl, rfl, rfl⟩
          · cases inner
            contradiction
          · cases inner
            exact ⟨rfl, rfl, _, rfl, rfl⟩
  | _ => cases spot

end Schema

namespace ActivityButton

theorem ofItem_of_apart {v w : Value} (apart : Value.Apart .absent .null [.key "url"] v w) :
    ofItem w = ofItem v := by
  cases apart with
  | field isRecord again same apart =>
    obtain ⟨missing, null⟩ := apart.eq_of_nil
    rw [ofItem_of_isRecord isRecord, ofItem_of_isRecord again, missing, null,
      same "label" (by decide)]
    rfl

end ActivityButton

/-- Readers of single values take null for absent. -/
theorem Atom.read_null {a : Atom} {occurrence : Occurrence} {shape : Schema} {path : Path}
    {v w : Value} (spot : Schema.FieldAt occurrence shape a.occurrence a.schema path)
    (missable : occurrence ≠ .required) (admitted : Schema.Admits a.occurrence a.schema v)
    (apart : Value.Apart .absent .null path v w) (context : Option Context) :
    a.form.read (a.schema.copied w) context = a.form.read (a.schema.copied v) context := by
  cases path with
  | nil =>
    obtain ⟨rfl, rfl⟩ := Schema.eq_of_nil spot
    cases apart
    rw [Schema.copied_null, Schema.copied_absent]
    cases a <;> first | rfl | contradiction
  | cons segment rest =>
    obtain ⟨rfl, rfl, position, rfl, rfl⟩ := Schema.path_of_atom spot missable
    obtain ⟨buttons, read, same⟩ := @ActivityButton.decode_of_admits "buttons" v admitted
    obtain ⟨others, reread, again⟩ :=
      @ActivityButton.decode_of_admits "buttons" w (Schema.admits_null spot apart admitted)
    have shown : w.listed.map ActivityButton.ofItem = v.listed.map ActivityButton.ofItem := by
      cases apart with
      | item _ _ apart =>
        have own := ActivityButton.ofItem_of_apart apart
        simp only [Value.listed, List.map_append, List.map_cons, own]
    rw [ActivityButton.itemSchema] at read reread
    simp only [form, ActivityButton.form, schema, read, reread, Except.map, same, again, shown]

namespace Layout
section
variable {occurrence outer : Occurrence} {shape : Schema} {path : Path} {name : String}
  {fields : List (String × String × Layout)} {v w : Value} {context : Option Context}

/-- What stands under a name in a record stands in a field with this name. -/
theorem exists_field (spot : Schema.FieldAt occurrence shape outer (.record (shapeFields fields))
      (.key name :: path)) : ∃ field ∈ fields, field.1 = name ∧
    Schema.FieldAt occurrence shape field.2.2.occurrence field.2.2.schema path := by
  cases spot with
  | field _ member inner =>
    rw [shapeFields_eq_map, List.mem_map] at member
    obtain ⟨field, listed, same⟩ := member
    cases same
    exact ⟨field, listed, rfl, inner⟩

/-- Records that differ in one field, which is read alike in both, are read alike. -/
theorem read_record_null {field : String × String × Layout} (distinct : soundNames fields = true)
    (listed : field ∈ fields) (isRecord : v.isRecord = true) (again : w.isRecord = true)
    (same : ∀ other, other ≠ field.1 → w.seen other = v.seen other)
    (own : field.2.2.form.read (field.2.2.schema.copied (w.seen field.1)) context =
      field.2.2.form.read (field.2.2.schema.copied (v.seen field.1)) context) :
    (Form.record (formFields fields)).read ((record fields).schema.copied w) context =
      (Form.record (formFields fields)).read ((record fields).schema.copied v) context := by
  apply read_fields_agree (Schema.not_vacant_copied again) (Schema.not_vacant_copied isRecord)
  intro other member
  rw [get_copied distinct member, get_copied distinct member]
  by_cases named : other.1 = field.1
  · obtain rfl := List.inj_on_of_nodup_map (soundNames_iff.mp distinct).1 member listed named
    exact own
  · rw [same _ named]

/-- Lists that differ in one item, which is read alike in both, are read alike item by item. -/
theorem exists_items_null (context : Option Context) {item : Layout} {segment : Segment}
    (required : item.occurrence = .required)
    (ofItem : ∀ {path x y}, Schema.FieldAt occurrence shape item.occurrence item.schema path →
      item.Admits x → Value.Apart .absent .null path x y →
      item.form.read (item.schema.copied y) context =
        item.form.read (item.schema.copied x) context)
    (spot : Schema.FieldAt occurrence shape outer (.list item.schema) (segment :: path))
    (each : ∀ x ∈ v.listed, item.schema.Fits x)
    (apart : Value.Apart .absent .null (segment :: path) v w) :
    ∃ xs ys, v = .list xs ∧ w = .list ys ∧
      ys.map (fun y => item.form.read (item.schema.copied y) context) =
        xs.map fun x => item.form.read (item.schema.copied x) context := by
  cases spot with
  | item inner =>
    cases apart with
    | @item before after _ x y _ _ apart =>
      have fits : item.schema.Fits x := each x (by simp [Value.listed])
      have own := ofItem (required ▸ inner) (admits_of_fits fits) apart
      exact ⟨_, _, rfl, rfl, by simp only [List.map_append, List.map_cons, own]⟩

theorem optionalAt_record (other : outer ≠ .optional)
    (ofFields : ∀ field ∈ fields, ∀ {path},
      Schema.FieldAt .optional shape field.2.2.occurrence field.2.2.schema path →
      Schema.OptionalAt shape field.2.2.occurrence field.2.2.schema path)
    (spot : Schema.FieldAt .optional shape outer (.record (shapeFields fields)) path) :
    Schema.OptionalAt shape outer (.record (shapeFields fields)) path := by
  cases spot with
  | whole => contradiction
  | field distinct member inner =>
    have listed := member
    rw [shapeFields_eq_map, List.mem_map] at listed
    obtain ⟨field, listed, same⟩ := listed
    cases same
    obtain ⟨part, null⟩ := ofFields field listed inner
    exact ⟨.field distinct member part, null⟩

/-- Null is read for absent, wherever something may be missing. -/
theorem read_null {layout : Layout} (sound : layout.coherent = true)
    (spot : Schema.FieldAt occurrence shape layout.occurrence layout.schema path)
    (missable : occurrence ≠ .required) (admitted : layout.Admits v)
    (apart : Value.Apart .absent .null path v w) :
    layout.form.read (layout.schema.copied w) context =
      layout.form.read (layout.schema.copied v) context := by
  -- An empty path is the missing value itself. Else the two differ in one part, read by induction.
  induction layout generalizing path v w context with
  | atom a => exact Atom.read_null spot missable admitted apart context
  | record fields ofFields =>
    obtain ⟨_, each⟩ := admits_record.mp admitted
    obtain ⟨distinct, sound⟩ := coherent_record.mp sound
    simp only [Layout.occurrence, schema] at spot
    cases apart with
    | whole =>
      obtain ⟨rfl, _⟩ := Schema.eq_of_nil spot
      contradiction
    | item => cases spot
    | field isRecord again same apart =>
      obtain ⟨field, listed, rfl, inner⟩ := exists_field spot
      exact read_record_null distinct listed isRecord again same
        (ofFields field listed (sound field listed) inner (each field listed) apart)
  | part fields ofFields =>
    rw [schema_part]
    simp only [Layout.occurrence, schema] at spot
    cases apart with
    | whole =>
      rw [Schema.copied_null, Schema.copied_absent]
      rfl
    | item => cases spot
    | field isRecord again same apart =>
      have there := Schema.not_vacant_of_isRecord isRecord
      have admitted := (admits_part.mp admitted).resolve_left (by simp [there])
      obtain ⟨_, each⟩ := admits_record.mp admitted
      obtain ⟨distinct, sound⟩ := coherent_record.mp (coherent_part.mp sound)
      obtain ⟨field, listed, rfl, inner⟩ := exists_field spot
      simp only [form, Form.part, isMeaningful_copied isRecord, isMeaningful_copied again, if_true]
      exact read_record_null distinct listed isRecord again same
        (ofFields field listed (sound field listed) inner (each field listed) apart)
  | ofUser inner ofInner =>
    obtain ⟨keyed, sound⟩ := coherent_ofUser.mp sound
    have fits := fits_of_admits (required_of_hasKey keyed) (admits_ofUser.mp admitted)
    -- The user who is named in the log is the same, since identifiers are not missing.
    obtain ⟨s, shown, _⟩ := follow_of_hasKey sound keyed fits
    have id := (follow_copied sound keyed v).trans shown
    have again := (follow_copied sound keyed w).trans (Value.reach_of_apart shown apart)
    simp only [Layout.occurrence, schema] at spot
    simp only [form, schema, Value.field_of_follow id, Value.field_of_follow again]
    exact congrArg _ (funext fun _ => ofInner sound spot (admits_ofUser.mp admitted) apart)
  | list item ofItem =>
    obtain ⟨required, sound⟩ := coherent_list.mp sound
    obtain ⟨_, each⟩ := listed_of_admits (.inr admitted)
    simp only [Layout.occurrence, schema] at spot
    cases path with
    | nil => exact absurd (Schema.eq_of_nil spot).1 missable
    | cons segment path =>
      obtain ⟨xs, ys, rfl, rfl, same⟩ := exists_items_null context required (ofItem sound) spot
        each apart
      rw [schema, Schema.copied_list, Schema.copied_list]
      exact read_items_agree same
  | optionalList item ofItem =>
    obtain ⟨required, sound⟩ := coherent_list.mp (coherent_optionalList.mp sound)
    obtain ⟨_, each⟩ := listed_of_admits (admits_optionalList.mp admitted)
    simp only [Layout.occurrence, schema] at spot
    cases path with
    | nil =>
      obtain ⟨rfl, rfl⟩ := apart.eq_of_nil
      rw [Schema.copied_null, Schema.copied_absent]
      rfl
    | cons segment path =>
      obtain ⟨xs, ys, rfl, rfl, same⟩ := exists_items_null context required (ofItem sound) spot
        each apart
      rw [schema, Schema.copied_list, Schema.copied_list]
      exact read_items_agree same
  | keyed collection key item ofItem =>
    obtain ⟨keyed, sound⟩ := coherent_keyed.mp sound
    obtain ⟨_, each⟩ := listed_of_admits (admits_keyed.mp admitted)
    simp only [Layout.occurrence, schema] at spot
    cases path with
    | nil =>
      obtain ⟨rfl, rfl⟩ := apart.eq_of_nil
      rw [Schema.copied_null, Schema.copied_absent]
      rfl
    | cons segment path =>
      obtain ⟨xs, ys, rfl, rfl, same⟩ :=
        exists_items_null context (required_of_hasKey keyed) (ofItem sound) spot each apart
      rw [form, schema, Keyed.read_form (copied_orElse rfl), Keyed.read_form (copied_orElse rfl),
        Keyed.decode_map, Keyed.decode_map, Keyed.decode_congr same]

/-- Fields that may be left out without allowing for null hold numbers, truth values and lists, and
stand in no choice. -/
theorem optionalAt {layout : Layout} (sound : layout.coherent = true)
    (spot : Schema.FieldAt .optional shape layout.occurrence layout.schema path) :
    Schema.OptionalAt shape layout.occurrence layout.schema path := by
  induction layout generalizing path with
  | atom a =>
    cases path with
    | nil =>
      obtain ⟨optional, rfl⟩ := Schema.eq_of_nil spot
      cases a with
      | switch => exact ⟨.whole, .notBoolean, by simp, rfl⟩
      | optionalKind kinds => exact ⟨.whole, .notNumber, by simp, rfl⟩
      | optionalLeaves leaf => exact ⟨.whole, .notList, by simp, rfl⟩
      | _ => contradiction
    | cons segment path =>
      obtain ⟨_, nullable, _⟩ := Schema.path_of_atom spot (by decide)
      contradiction
  | record fields ofFields =>
    obtain ⟨_, sound⟩ := coherent_record.mp sound
    simp only [Layout.occurrence, schema] at spot ⊢
    exact optionalAt_record (by decide)
      (fun field listed => ofFields field listed (sound field listed)) spot
  | part fields ofFields =>
    obtain ⟨_, sound⟩ := coherent_record.mp (coherent_part.mp sound)
    simp only [Layout.occurrence, schema] at spot ⊢
    exact optionalAt_record (by decide)
      (fun field listed => ofFields field listed (sound field listed)) spot
  | ofUser inner ofInner =>
    simp only [Layout.occurrence, schema] at spot ⊢
    exact ofInner (coherent_ofUser.mp sound).2 spot
  | list item ofItem =>
    obtain ⟨required, sound⟩ := coherent_list.mp sound
    simp only [Layout.occurrence, schema] at spot ⊢
    cases spot with
    | item inner => exact .item (required ▸ ofItem sound (required ▸ inner))
  | optionalList item ofItem =>
    obtain ⟨required, sound⟩ := coherent_list.mp (coherent_optionalList.mp sound)
    simp only [Layout.occurrence, schema] at spot ⊢
    cases spot with
    | whole => exact ⟨.whole, .notList, by simp, rfl⟩
    | item inner => exact .item (required ▸ ofItem sound (required ▸ inner))
  | keyed collection key item ofItem =>
    obtain ⟨keyed, sound⟩ := coherent_keyed.mp sound
    have required := required_of_hasKey keyed
    simp only [Layout.occurrence, schema] at spot ⊢
    cases spot with
    | whole => exact ⟨.whole, .notList, by simp, rfl⟩
    | item inner => exact .item (required ▸ ofItem sound (required ▸ inner))

end
end Layout

namespace Schema

/-- Null in the place of an optional field is the one thing wrong then. -/
theorem check_null {shape whole : Schema} {path : Path} {x v w : Value} {violation : Violation}
    (part : Part .optional shape .required whole path)
    (null : findings .optional shape [] .null = [⟨[], violation, .null⟩]) (fits : whole.Fits v)
    (apart : Value.Apart x .null path v w) : whole.check w = [⟨path, violation, .null⟩] := by
  obtain ⟨before, after, first, second, _⟩ := findings_apart part apart
  rw [← check_eq_findings, check_eq_nil_iff.mpr fits, eq_comm, List.append_eq_nil_iff,
    List.append_eq_nil_iff] at first
  obtain ⟨⟨rfl, _⟩, rfl⟩ := first
  rw [check_eq_findings, second, null]
  simp [Finding.under]

end Schema

namespace RecordType

/-- Null in the place of a field that may be left out. Where nothing is seen there before, reading
takes it for absent, and if the schema allows for null the payload is decoded as before, log and
all, so that the entity has the same defaults. Where the schema does not, the payload is refused
for the null alone, whatever stood there before. -/
theorem decode_null (r : RecordType) (call : Call) {occurrence : Occurrence} {shape : Schema}
    {path : Path} {payload changed entity x : Value}
    (spot : Schema.FieldAt occurrence shape .required r.schema path)
    (missable : occurrence ≠ .required) (given : payload.IsPayload) (again : changed.IsPayload)
    (apart : Value.Apart x .null path payload changed)
    (decoded : (r.decode payload call).outcome = .ok entity) :
    (x = .absent →
      (∀ context, r.form.read (r.schema.copied changed) context =
        r.form.read (r.schema.copied payload) context) ∧
      (occurrence = .nullable → r.decode changed call = r.decode payload call)) ∧
    (occurrence = .optional → ∃ violation ∈ [Violation.notNumber, .notBoolean, .notList],
      (r.decode changed call).outcome = .error (.decode (.ofProblems r.root
        [(⟨path, violation, .null⟩ : Finding).report r.root]))) := by
  obtain ⟨_, fits, _⟩ := accepted_of_decode decoded
  have placed : Schema.FieldAt occurrence shape r.layout.occurrence r.layout.schema path := by
    rw [required_layout, schema_layout]
    exact spot
  refine ⟨?_, ?_⟩
  · rintro rfl
    have read (context : Option Context) : r.form.read (r.schema.copied changed) context =
        r.form.read (r.schema.copied payload) context := by
      rw [← form_layout, ← schema_layout]
      exact Layout.read_null r.coherent_layout placed missable (admits_layout fits) apart
    refine ⟨read, ?_⟩
    rintro rfl
    have too : r.schema.Fits changed := Schema.admits_null spot apart fits
    exact decode_congr given again fits too read call
  · rintro rfl
    obtain ⟨part, violation, listed, null⟩ := Layout.optionalAt r.coherent_layout placed
    rw [required_layout, schema_layout] at part
    have found := Schema.check_null part null fits apart
    have misfit : ¬ r.schema.Fits changed := by
      rw [← Schema.check_eq_nil_iff, found]
      exact List.cons_ne_nil _ _
    refine ⟨violation, listed, ?_⟩
    rw [outcome_decode_of_not_fits again misfit, Schema.report, found]
    rfl

/-- A presence with one activity, which has the given fields beside its name. -/
def playing (extra : List (String × Value)) : Value := .record [
  ("status", .text "online"),
  ("user", .record [("id", .text "6")]),
  ("activities", .list [.record (("name", .text "chess") :: extra)])]

theorem apart_playing {name : String} (other : name ≠ "name") (barren : name ≠ Value.parentField) :
    Value.Apart .absent .null [.key "activities", .index (.ofNat 0), .key name] (playing [])
      (playing [(name, .null)]) := by
  have playing_seen (extra : List (String × Value)) (field : String) :
      (playing extra).seen field = (playing extra).get field :=
    Value.seen_of_not_mem (by simp [Value.parentField]) field
  have chess_seen (field : String) : (Value.record [("name", .text "chess")]).seen field =
      (Value.record [("name", .text "chess")]).get field :=
    Value.seen_of_not_mem (by decide) field
  have null_seen (field : String) :
      (Value.record [("name", .text "chess"), (name, .null)]).seen field =
        (Value.record [("name", .text "chess"), (name, .null)]).get field :=
    Value.seen_of_not_mem
      (by simpa [barren.symm] using (by decide : Value.parentField ≠ "name")) field
  have missing : (Value.record [("name", .text "chess")]).seen name = .absent := by
    simp [chess_seen, Value.get, List.lookup_cons, beq_eq_false_iff_ne.mpr other]
  have null : (Value.record [("name", .text "chess"), (name, .null)]).seen name = .null := by
    simp [null_seen, Value.get, List.lookup_cons, beq_eq_false_iff_ne.mpr other]
  refine .field rfl rfl (fun field elsewhere => ?_) ?_
  · rw [playing_seen, playing_seen]
    simp [playing, Value.get, List.lookup_cons, beq_eq_false_iff_ne.mpr elsewhere]
  · refine @Value.Apart.item _ _ [] [] _ _ _ Value.noConfusion Value.noConfusion ?_
    refine .field rfl rfl (fun field elsewhere => ?_) ?_
    · rw [chess_seen, null_seen]
      simp [Value.get, List.lookup_cons, beq_eq_false_iff_ne.mpr elsewhere]
    · rw [missing, null]
      exact .whole

/-- An activity may have null for its details, but not for its kind. -/
theorem decode_null_playing :
    (Presence.decode (playing []) none).outcome = .ok (Layout.presence.entity (playing [])) ∧
    Presence.decode (playing [("details", .null)]) none = Presence.decode (playing []) none ∧
    ∃ violation ∈ [Violation.notNumber, .notBoolean, .notList],
      (Presence.decode (playing [("type", .null)]) none).outcome =
        .error (.decode (.ofProblems "presence" [(⟨[.key "activities", .index (.ofNat 0),
          .key "type"], violation, .null⟩ : Finding).report "presence"])) := by
  have payload {extra : List (String × Value)} (plain : ∀ field ∈ extra, field.2 = .null) :
      (playing extra).IsPayload := by
    have all : ∀ field ∈ extra, field.2.IsJson := fun field member => plain field member ▸ .null
    exact .inr (by simpa [playing] using fun name v => all (name, v))
  have spot {occurrence : Occurrence} {shape : Schema} {name : String}
      (inner : Schema.FieldAt occurrence shape .required .activity [.key name]) :
      Schema.FieldAt occurrence shape .required presence.schema
        [.key "activities", .index (.ofNat 0), .key name] := by
    refine .field (by decide) (?_ : ("activities", .optional, .list .activity) ∈ _) (.item inner)
    simp
  have details : Schema.FieldAt .nullable .free .required .activity [.key "details"] :=
    .field (by decide) (by simp) .whole
  have kind : Schema.FieldAt .optional .number .required .activity [.key "type"] :=
    .field (by decide) (by simp) .whole
  have decoded : (Presence.decode (playing []) none).outcome =
      .ok (Layout.presence.entity (playing [])) := rfl
  have allowed := decode_null presence (.within none) (spot details) (by decide) (payload (by simp))
    (payload (by simp)) (apart_playing (by decide) (by decide)) decoded
  have refused := decode_null presence (.within none) (spot kind) (by decide) (payload (by simp))
    (payload (by simp)) (apart_playing (by decide) (by decide)) decoded
  exact ⟨decoded, (allowed.1 rfl).2 rfl, refused.2 rfl⟩

end RecordType
end ChatGateway
