import ChatGateway.Proofs.Buttons
import ChatGateway.Proofs.Changes
import ChatGateway.Proofs.Places

/-! The checks that readers make on their own. Buttons, discriminators and flags are refused by
their readers exactly where the schemas refuse them, so that neither side lets pass what the other
stops. -/
namespace ChatGateway

namespace Schema

/-- No problem of a value stands at its field `name` or inside it. -/
def ClearAt (shape : Schema) (name : String) (v : Value) : Prop :=
  ∀ finding ∈ shape.check v, ¬ [.key name] <+: finding.path

/-- The shape takes `new` as the field `name` exactly if `good` holds. Then and only then no problem
stands there, whatever else the record holds, and a record that is accepted stays so. -/
structure TakesIf (shape : Schema) (name : String) (new : Value) (good : Prop) : Prop where
  clear : ∀ fields, shape.ClearAt name ((Value.record fields).put name new) ↔ good
  accepted : ∀ fields, shape.accepts (.record fields) = true →
    (shape.accepts ((Value.record fields).put name new) = true ↔ good)

section
variable {fields : List (String × Occurrence × Schema)} {name : String} {occurrence : Occurrence}
  {shape : Schema} {path : Path} {v new : Value} {good : Prop}

theorem findings_eq_nil_iff :
    findings occurrence shape path v = [] ↔ Admits occurrence shape v := by
  have missing : ¬ shape.Fits .absent := not_fits_absent
  cases occurrence <;> cases v <;>
    simp [findings, Admits, problems_eq_nil_iff, Value.isVacant, missing]

theorem admits_iff_fits (there : v.isVacant = false) :
    Admits occurrence shape v ↔ shape.Fits v :=
  ⟨fits_of_admits there, admits_of_fits⟩

/-- A record has no problem at a field exactly if the field holds what it may. -/
theorem clearAt_iff (distinct : (fields.map Prod.fst).Nodup)
    (member : (name, occurrence, shape) ∈ fields) (record : v.isRecord = true) :
    (Schema.record fields).ClearAt name v ↔ Admits occurrence shape (v.seen name) := by
  rw [ClearAt, check_eq_findings, findings_record record, ← @findings_eq_nil_iff _ _ []]
  constructor
  · intro clear
    rw [List.eq_nil_iff_forall_not_mem]
    intro finding found
    apply clear (finding.under [.key name])
    · exact mem_sections.mpr ⟨_, List.mem_map_of_mem member, finding, found, rfl⟩
    · exact List.prefix_append _ _
  · intro none finding found started
    obtain ⟨part, listed, inside, own, rfl⟩ := mem_sections.mp found
    obtain ⟨field, other, rfl⟩ := List.mem_map.mp listed
    have same : name = field.1 := Segment.key.inj (List.cons_prefix_cons.mp started).1
    obtain rfl := List.inj_on_of_nodup_map distinct member other same
    rw [none] at own
    contradiction

theorem takesIf_of_admits (distinct : (fields.map Prod.fst).Nodup)
    (barren : name ≠ Value.parentField) (member : (name, occurrence, shape) ∈ fields)
    (same : Admits occurrence shape new ↔ good) :
    (Schema.record fields).TakesIf name new good where
  clear entries := by
    have held : ((Value.record entries).put name new).seen name = new :=
      Value.seen_put_self rfl barren
    rw [clearAt_iff distinct member rfl, held, same]
  accepted entries passed := by
    rw [accepts_iff_fits] at passed ⊢
    simp only [Fits, fieldsFit_iff] at passed ⊢
    constructor
    · rintro ⟨_, each⟩
      have own := each _ member
      rwa [Value.seen_put_self rfl barren, same] at own
    · intro holds
      refine ⟨rfl, fun field listed => ?_⟩
      by_cases here : field.1 = name
      · obtain rfl := List.inj_on_of_nodup_map distinct listed member here
        rw [Value.seen_put_self rfl barren]
        exact same.mpr holds
      · rw [Value.seen_put_other rfl barren here]
        exact passed.2 field listed

end
end Schema

/-! ### Each reader and its schema -/

/-- The schema of the buttons of an activity. -/
def ActivityButton.listSchema : Schema := .list itemSchema

theorem ActivityButton.admits_iff {field : String} {v : Value} :
    Schema.Admits .nullable listSchema v ↔
      ∃ buttons, decode field (listSchema.copied v) = .ok buttons := by
  constructor
  · intro admitted
    obtain ⟨buttons, read, _⟩ := @decode_of_admits field v admitted
    exact ⟨buttons, read⟩
  · rintro ⟨buttons, read⟩
    cases v with
    | absent => exact .inl rfl
    | null => exact .inl rfl
    | list items =>
      rw [listSchema, Schema.copied_list, decode] at read
      refine .inr (Schema.fits_list.mpr ⟨items, rfl, fun item member => fits_iff_shows.mpr ?_⟩)
      rcases shown_or_shapeless (items.map fun x => itemSchema.copied x) with
        shown | ⟨before, shapeless, after, split, shown, none⟩
      · exact shown _ (List.mem_map_of_mem member)
      · rw [split, decodeFrom_refused shown none] at read
        contradiction
    | _ =>
      simp only [listSchema, Schema.copied] at read
      contradiction

theorem Discriminator.fits_iff {field text : String} :
    Schema.discriminator.Fits (.text text) ↔
      ∃ number, decode field (.text text) = .ok number := by
  simp only [Schema.discriminator, Schema.Fits, TextForm.Accepts, Value.text.injEq,
    decode_text_eq_ok_iff]
  constructor
  · rintro ⟨_, rfl, digits⟩
    exact ⟨_, digits, rfl⟩
  · rintro ⟨_, digits, _⟩
    exact ⟨text, rfl, digits⟩

theorem FlagTable.fits_iff {table : FlagTable} {v : Value} {context : Option Context} :
    Schema.count.Fits v ↔ ∃ set, (table.decode v context).outcome = .ok set := by
  rw [Schema.fits_count]
  constructor
  · rintro ⟨n, safe, rfl⟩
    exact ⟨_, outcome_decode_ofNat table safe context⟩
  · rintro ⟨set, read⟩
    obtain ⟨n, safe, same, _⟩ := eq_of_decode read
    exact ⟨n, safe, same⟩

/-- The records with a discriminator. -/
def Schema.users : List Schema := [user, currentUser, presenceUser]

/-- The records with flags, each with the name of the field and the table of the flags. -/
def FlagTable.places : List (Schema × String × FlagTable) := [
  (.activity, "flags", activity),
  (.user, "public_flags", userPublic),
  (.currentUser, "public_flags", userPublic),
  (.presenceUser, "public_flags", userPublic),
  (.partialApplication, "flags", application)]

/-- The readers of buttons, discriminators and flags stop what the schemas stop and nothing else:
any value in the place of buttons, of which its copy is read, any text in that of a discriminator,
and any number in that of flags. Where no record has the field that makes copies inherit the reader
of buttons may be handed the value itself. -/
theorem Schema.takes_iff_read (context : Option Context) :
    (∀ (v : Value) (field : String), activity.TakesIf "buttons" v
      (∃ buttons, ActivityButton.decode field (ActivityButton.listSchema.copied v) =
        .ok buttons)) ∧
    (∀ (v : Value) (field : String), v.IsPayload → ¬ v.NamesParent →
      activity.TakesIf "buttons" v (∃ buttons, ActivityButton.decode field v = .ok buttons)) ∧
    (∀ shape ∈ users, ∀ text field : String, shape.TakesIf "discriminator" (.text text)
      (∃ number, Discriminator.decode field (.text text) = .ok number)) ∧
    ∀ place ∈ FlagTable.places, ∀ n : Number, place.1.TakesIf place.2.1 (.number n)
      (∃ set, (place.2.2.decode (.number n) context).outcome = .ok set) := by
  have buttons (v : Value) (field : String) : activity.TakesIf "buttons" v
      (∃ buttons, ActivityButton.decode field (ActivityButton.listSchema.copied v) =
        .ok buttons) :=
    takesIf_of_admits (by decide) (by decide)
      (by simp [ActivityButton.listSchema, ActivityButton.itemSchema]) ActivityButton.admits_iff
  refine ⟨buttons, fun v field given plain => ?_, fun shape member text field => ?_,
    fun place member n => ?_⟩
  · have copy := buttons v field
    rwa [copied_of_plain given plain] at copy
  · have agree (occurrence : Occurrence) :=
      (@admits_iff_fits occurrence discriminator (.text text) rfl).trans
        (@Discriminator.fits_iff field text)
    simp only [users, List.mem_cons, List.not_mem_nil, or_false] at member
    rcases member with rfl | rfl | rfl
    · exact takesIf_of_admits (by decide) (by decide) (by simp) (agree .required)
    · exact takesIf_of_admits (by decide) (by decide) (by simp) (agree .required)
    · exact takesIf_of_admits (by decide) (by decide) (by simp) (agree .nullable)
  · have agree (table : FlagTable) (occurrence : Occurrence) :=
      (@admits_iff_fits occurrence .count (.number n) rfl).trans
        (@FlagTable.fits_iff table (.number n) context)
    simp only [FlagTable.places, List.mem_cons, List.not_mem_nil, or_false] at member
    rcases member with rfl | rfl | rfl | rfl | rfl
    · exact takesIf_of_admits (by decide) (by decide) (by simp) (agree _ .nullable)
    · exact takesIf_of_admits (by decide) (by decide) (by simp) (agree _ .nullable)
    · exact takesIf_of_admits (by decide) (by decide) (by simp) (agree _ .nullable)
    · exact takesIf_of_admits (by decide) (by decide) (by simp) (agree _ .nullable)
    · exact takesIf_of_admits (by decide) (by decide) (by simp) (agree _ .required)

/-- Buttons that are taken, one that is taken for the label that its copy inherits, a discriminator
that is too long and flags of an unsafe number. -/
theorem Schema.takes_iff_read_bounds :
    let fields : List (String × Value) := [("name", .text "G")]
    let buttons : Value := .list [.text "Go", .record [("label", .text "a"), ("url", .null)]]
    let heir : Value := .list [.record [(Value.parentField, .record [("label", .text "go")])]]
    activity.accepts ((Value.record fields).put "buttons" buttons) = true ∧
      activity.accepts ((Value.record fields).put "buttons" heir) = true ∧
      ¬ user.ClearAt "discriminator" ((Value.record []).put "discriminator" (.text "12345")) ∧
      ¬ activity.accepts ((Value.record fields).put "flags" (.number (.ofNat (2 ^ 53)))) =
        true := by
  intro fields buttons heir
  obtain ⟨ofCopies, ofButtons, ofUsers, ofFlags⟩ := takes_iff_read none
  have given : buttons.IsPayload := .inr (by simp [buttons])
  have plain : ¬ buttons.NamesParent := by
    simp [buttons, Value.parentField]
  refine ⟨?_, ?_, ?_, ?_⟩
  · exact ((ofButtons buttons "buttons" given plain).accepted fields (by decide)).mpr ⟨_, rfl⟩
  · exact ((ofCopies heir "buttons").accepted fields (by decide)).mpr ⟨_, rfl⟩
  · rw [(ofUsers user (by simp [users]) "12345" "discriminator").clear []]
    rintro ⟨number, read⟩
    contradiction
  · rw [(ofFlags (activity, "flags", .activity) (by simp [FlagTable.places]) _).accepted fields
      (by decide)]
    rintro ⟨set, read⟩
    contradiction

end ChatGateway
