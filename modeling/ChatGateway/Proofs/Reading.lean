import ChatGateway.Proofs.Buttons
import ChatGateway.Proofs.Flags
import ChatGateway.Proofs.Keyed

/-! Reading by layout. `Layout.entity` says which entity a value on the wire stands for, without
context, log or failure; reading any admitted value succeeds with just this entity. -/
namespace ChatGateway

/-- The natural number that a value is, zero for any other value. -/
def Value.natural (v : Value) : Nat :=
  (v.number?.bind Number.count?).getD 0

theorem Value.natural_ofNat {n : Nat} (safe : n ≤ Number.safeLimit) :
    (Value.ofNat n).natural = n := by
  have counted : (Value.ofNat n).number?.bind Number.count? = some n := Number.count?_ofNat safe
  rw [natural, counted]
  rfl

/-- The button that a list item stands for, as a record. -/
def ActivityButton.ofItem : Value → Value
  | .text label => toValue ⟨label, ""⟩
  | v => .record [("label", v.seen "label"), ("url", (v.seen "url").orElse (.text ""))]

def Discriminator.ofWritten (v : Value) : Value :=
  .ofNat (Digits.decimal (v.text?.getD "").toList)

def Atom.entity : Atom → Value → Value
  | .required _, v | .leaves _, v => v
  | .optional _, v => v.orElse .absent
  | .switch, v => v.orElse (.bool false)
  | .discriminator, v => Discriminator.ofWritten v
  | .optionalDiscriminator, v => if v.isVacant then .absent else Discriminator.ofWritten v
  | .flags table, v => .flags ⟨table, v.natural⟩
  | .optionalFlags table, v => if v.isVacant then .absent else .flags ⟨table, v.natural⟩
  | .kind kinds, v => if kinds.isKnown v then v else .number kinds.unknown
  | .optionalKind kinds, v =>
    if v.isVacant then .number kinds.first
    else if kinds.isKnown v then v else .number kinds.unknown
  | .buttons, v => .list (v.listed.map ActivityButton.ofItem)
  | .optionalLeaves _, v => v.orElse (.list [])

namespace Layout

mutual

/-- The entity that a value on the wire stands for. -/
def entity : Layout → Value → Value
  | .atom a, v => a.entity v
  | .record fields, v => .record (entityFields fields v)
  | .part fields, v => if v.isVacant then .absent else .record (entityFields fields v)
  | .ofUser inner, v => inner.entity v
  | .list item, v | .optionalList item, v => .list (v.listed.map fun x => item.entity x)
  | .keyed _ key item, v =>
    .map ((lastOfEach (Value.keyText key) v.listed).map (Prod.map .text fun x => item.entity x))

def entityFields : List (String × String × Layout) → Value → List (String × Value)
  | [], _ => []
  | (wireName, name, layout) :: rest, v =>
    (name, layout.entity (v.seen wireName)) :: entityFields rest v

end

end Layout

theorem Traced.outcome_forEach {α β : Type} {f : α → Traced β} {g : α → β} {items : List α}
    (each : ∀ item ∈ items, (f item).outcome = .ok (g item)) :
    (forEach f items).outcome = .ok (items.map g) := by
  induction items with
  | nil => rfl
  | cons item rest ih =>
    simp only [forEach, outcome_bind, each item (by simp), Except.bind,
      ih fun other member => each other (by simp [member])]
    rfl

theorem Traced.forEach_map {α β γ : Type} (f : β → Traced γ) (g : α → β) (items : List α) :
    forEach f (items.map g) = forEach (fun item => f (g item)) items := by
  induction items with
  | nil => rfl
  | cons item rest ih => rw [List.map_cons, forEach, forEach, ih]

namespace Value

theorem field_of_get {v held : Value} {name : String} (found : v.get name = held)
    (present : held ≠ .absent) : v.field name = .ok held := by
  cases v <;> simp_all [field, get, isVacant]

theorem field_of_follow {v : Value} {first second s : String}
    (found : v.follow [first, second] = .text s) :
    (do (← v.field first).field second) = Except.ok (.text s) := by
  have held : (v.get first).get second = .text s := found
  have there : v.get first ≠ .absent := by
    intro missing
    rw [missing] at held
    contradiction
  rw [field_of_get rfl there]
  exact field_of_get held Value.noConfusion

theorem get_record_of_mem {fields : List (String × Value)} {name : String} {v : Value}
    (distinct : (fields.map Prod.fst).Nodup) (member : (name, v) ∈ fields) :
    (Value.record fields).get name = v := by
  induction fields with
  | nil => contradiction
  | cons head rest ih =>
    obtain ⟨first, held⟩ := head
    simp only [List.map_cons, List.nodup_cons] at distinct
    rcases List.mem_cons.mp member with same | later
    · cases same
      simp [get]
    · have differs : (name == first) = false := beq_eq_false_iff_ne.mpr fun same =>
        distinct.1 (List.mem_map.mpr ⟨(name, v), later, same⟩)
      simpa only [get, List.lookup_cons, differs] using ih distinct.2 later

end Value

namespace ActivityButton

theorem ofItem_of_isRecord {v : Value} (isRecord : v.isRecord = true) : ofItem v =
    .record [("label", v.seen "label"), ("url", (v.seen "url").orElse (.text ""))] := by
  cases v <;> first | rfl | contradiction

theorem toValue_of_shows {v : Value} {button : ActivityButton}
    (shows : Shows (itemSchema.copied v) button) : toValue button = ofItem v := by
  have parts (record : (itemSchema.copied v).isRecord = true) := isRecord_copied.symm.trans record
  generalize copied : itemSchema.copied v = copy at shows parts
  cases shows with
  | label label =>
    obtain rfl := (Schema.copied_eq_iff rfl fun _ => Value.noConfusion).mp copied
    rfl
  | linked record labelled linked =>
    obtain ⟨sameLabel, sameUrl⟩ := get_copied (parts record)
    rw [ofItem_of_isRecord (parts record), ← sameLabel, ← sameUrl, copied, labelled, linked]
    rfl
  | unlinked record labelled missing =>
    obtain ⟨sameLabel, sameUrl⟩ := get_copied (parts record)
    rw [ofItem_of_isRecord (parts record), ← sameLabel, ← sameUrl, copied, labelled, Value.orElse,
      if_pos missing]
    rfl

theorem exists_buttons_of_fits {items : List Value}
    (fits : ∀ item ∈ items, itemSchema.Fits item) :
    ∃ buttons, List.Forall₂ Shows (items.map fun item => itemSchema.copied item) buttons ∧
      buttons.map toValue = items.map ofItem := by
  obtain ⟨buttons, related⟩ := exists_buttons <| List.forall_mem_map.mpr fun item member =>
    fits_iff_shows.mp (fits item member)
  refine ⟨buttons, related, ?_⟩
  rw [List.forall₂_map_left_iff] at related
  clear fits
  induction related with
  | nil => rfl
  | cons shows _ ih => rw [List.map_cons, List.map_cons, toValue_of_shows shows, ih]

theorem decode_of_admits {field : String} {v : Value}
    (admitted : v.isVacant = true ∨ (Schema.list itemSchema).Fits v) :
    ∃ buttons, decode field ((Schema.list itemSchema).copied v) = .ok buttons ∧
      buttons.map toValue = v.listed.map ofItem := by
  rcases admitted with vacant | fits
  · refine ⟨[], ?_, ?_⟩
    · cases v <;> first | contradiction | simp only [Schema.copied, decode]
    · cases v <;> first | rfl | contradiction
  · obtain ⟨items, rfl, each⟩ := Schema.fits_list.mp fits
    obtain ⟨buttons, related, same⟩ := exists_buttons_of_fits each
    rw [Schema.copied_list]
    exact ⟨buttons, decodeFrom_eq_ok_iff.mpr related, same⟩

end ActivityButton

theorem Discriminator.outcome_read {field : String} {v : Value} (fits : Schema.discriminator.Fits v)
    (context : Option Context) :
    ((Discriminator.form field).read v context).outcome = .ok (ofWritten v) := by
  simp only [Schema.discriminator, Schema.Fits] at fits
  obtain ⟨s, rfl, digits⟩ := fits
  have read : decode field (.text s) = .ok (.ofNat (Digits.decimal s.toList)) :=
    decode_text_eq_ok_iff.mpr ⟨digits, rfl⟩
  simp only [form, Traced.outcome_ofExcept, read]
  rfl

theorem FlagTable.outcome_read {table : FlagTable} {v : Value} (count : v.IsCount)
    (context : Option Context) :
    (table.form.read v context).outcome = .ok (.flags ⟨table, v.natural⟩) := by
  obtain ⟨n, safe, rfl⟩ := count
  rw [form, Traced.outcome_map, Value.ofNat, outcome_decode_ofNat table safe, ← Value.ofNat,
    Value.natural_ofNat safe]
  rfl

section
variable {kinds : Enumeration} {code : Number} {context : Option Context}

theorem Enumeration.decode_of_mem (listed : code ∈ kinds.known) :
    kinds.decode (.number code) context = .result code := by
  have found : kinds.known.contains code = true := List.contains_iff_mem.mpr listed
  rw [decode, Value.number?, Option.filter_some, if_pos found]
  rfl

theorem Enumeration.decode_of_not_mem (unlisted : code ∉ kinds.known) :
    kinds.decode (.number code) context =
      ⟨[.unknownEnumValue kinds.name (.number code) context], .ok kinds.unknown⟩ := by
  have missing : ¬ kinds.known.contains code = true := mt List.contains_iff_mem.mp unlisted
  rw [decode, Value.number?, Option.filter_some, if_neg missing]
  rfl

end

theorem Enumeration.outcome_read {kinds : Enumeration} {field : String} {v : Value}
    (fits : Schema.number.Fits v) (context : Option Context) :
    ((kinds.form field).read v context).outcome =
      .ok (if kinds.isKnown v then v else .number kinds.unknown) := by
  simp only [Schema.Fits] at fits
  obtain ⟨q, rfl, _⟩ := fits
  rw [form, Traced.outcome_map]
  by_cases listed : .finite q ∈ kinds.known
  · rw [decode_of_mem listed, if_pos (isKnown_number_iff.mpr listed)]
    rfl
  · rw [decode_of_not_mem listed, if_neg (mt isKnown_number_iff.mp listed)]
    rfl

theorem Leaf.copied_schema (leaf : Leaf) (v : Value) : leaf.schema.copied v = v := by
  cases leaf <;> simp only [schema, Schema.free, Schema.snowflake, Schema.status, Schema.copied]

namespace Atom

/-- Of what a field holds that has no named parts only buttons are copied. -/
theorem copied_schema {a : Atom} (simple : a ≠ .buttons) (v : Value) : a.schema.copied v = v := by
  have leaves (leaf : Leaf) : (Schema.list leaf.schema).copied v = v := by
    cases v <;> simp only [Schema.copied, Leaf.copied_schema, List.map_id']
  cases a with
  | required leaf | optional leaf => exact leaf.copied_schema v
  | leaves leaf | optionalLeaves leaf => exact leaves leaf
  | buttons => contradiction
  | _ => simp only [schema, Schema.discriminator, Schema.copied]

/-- What is read in a copy of an admitted value. -/
theorem outcome_read {a : Atom} {v : Value} (admitted : Schema.Admits a.occurrence a.schema v)
    (context : Option Context) :
    (a.form.read (a.schema.copied v) context).outcome = .ok (a.entity v) := by
  by_cases listed : a = .buttons
  · subst listed
    obtain ⟨buttons, read, same⟩ := @ActivityButton.decode_of_admits "buttons" v admitted
    simp only [ActivityButton.itemSchema] at read
    simp only [form, ActivityButton.form, Traced.outcome_ofExcept, schema, read, entity, ← same]
    rfl
  rw [copied_schema listed]
  cases a with
  | required leaf | optional leaf | switch => rfl
  | discriminator => exact Discriminator.outcome_read admitted context
  | optionalDiscriminator =>
    simp only [form, Discriminator.optionalForm, entity]
    split
    · rfl
    · rename_i there
      exact Discriminator.outcome_read (admitted.resolve_left there) context
  | flags table =>
    simp only [Schema.Admits, occurrence, schema, Schema.Fits] at admitted
    exact FlagTable.outcome_read admitted context
  | optionalFlags table =>
    simp only [Schema.Admits, occurrence, schema, Schema.Fits] at admitted
    simp only [form, FlagTable.optionalForm, entity]
    split
    · rfl
    · rename_i there
      exact FlagTable.outcome_read (admitted.resolve_left there) context
  | kind kinds => exact Enumeration.outcome_read admitted context
  | optionalKind kinds =>
    rcases admitted with rfl | fits
    · rfl
    · have there := Schema.not_vacant_of_fits fits
      simp only [form, Enumeration.optionalForm, Enumeration.decodeOptional, entity, there]
      exact @Enumeration.outcome_read kinds "type" v fits context
  | buttons => contradiction
  | leaves leaf =>
    obtain ⟨items, rfl, _⟩ := by simpa only [Schema.Admits, occurrence, schema, Schema.Fits] using
      admitted
    rfl
  | optionalLeaves leaf =>
    rcases admitted with rfl | fits
    · rfl
    · obtain ⟨items, rfl, _⟩ := by simpa only [schema, Schema.Fits] using fits
      rfl

end Atom

namespace Layout

theorem entityFields_eq_map {fields : List (String × String × Layout)} {v : Value} :
    entityFields fields v = fields.map fun field =>
      (field.2.1, field.2.2.entity (v.seen field.1)) := by
  induction fields with
  | nil => rfl
  | cons head rest ih => simp [entityFields, ih]

theorem get_entityFields {fields : List (String × String × Layout)} {v : Value}
    (distinct : soundNames fields = true) {field : String × String × Layout}
    (member : field ∈ fields) :
    (Value.record (entityFields fields v)).get field.2.1 = field.2.2.entity (v.seen field.1) := by
  refine Value.get_record_of_mem ?_ ?_
  · rw [entityFields_eq_map, List.map_map]
    exact (soundNames_iff.mp distinct).2.1
  · rw [entityFields_eq_map]
    exact List.mem_map_of_mem member

theorem get_copied {fields : List (String × String × Layout)} (distinct : soundNames fields = true)
    {field : String × String × Layout} (member : field ∈ fields) (v : Value) :
    ((record fields).schema.copied v).get field.1 = field.2.2.schema.copied (v.seen field.1) := by
  rw [schema, shapeFields_eq_map]
  have names : (fields.map fun field => (field.1, field.2.2.occurrence, field.2.2.schema)).map
      (·.1) = fields.map (·.1) := by
    rw [List.map_map]
    rfl
  exact Schema.get_copied (names ▸ (soundNames_iff.mp distinct).1) (List.mem_map_of_mem member)

theorem schema_part (fields : List (String × String × Layout)) :
    (part fields).schema = (record fields).schema := by
  simp only [schema]

theorem isMeaningful_copied {shape : Schema} {v : Value} (isRecord : v.isRecord = true) :
    (shape.copied v).isMeaningful = true := by
  rw [← @Schema.isRecord_copied v shape] at isRecord
  generalize shape.copied v = copy at isRecord
  cases copy <;> first | rfl | contradiction

/-- A copy has the key that is seen. -/
theorem follow_copied {layout : Layout} (sound : layout.coherent = true) {path : List String}
    (keyed : layout.hasKey path = true) (v : Value) :
    (layout.schema.copied v).follow path = v.reach path := by
  induction layout generalizing path v with
  | ofUser inner ofInner =>
    simp only [hasKey] at keyed
    simpa only [schema] using ofInner (coherent_ofUser.mp sound).2 keyed v
  | atom a =>
    obtain ⟨rfl, rfl⟩ : a = .required .snowflake ∧ path = [] := by
      unfold hasKey at keyed
      split at keyed <;> simp_all
    exact Leaf.copied_schema .snowflake v
  | record fields ofFields =>
    cases path with
    | nil => simp [hasKey] at keyed
    | cons name rest =>
      obtain ⟨distinct, each⟩ := coherent_record.mp sound
      obtain ⟨inner, member, inside⟩ := mem_of_fieldsHaveKey (by simpa only [hasKey] using keyed)
      rw [Value.follow, List.foldl_cons, get_copied distinct member]
      exact ofFields _ member (each _ member) inside _
  | _ => simp [hasKey] at keyed

/-- A key is an identifier, which is the same on the wire and off it. -/
theorem follow_of_hasKey {layout : Layout} (sound : layout.coherent = true) {path : List String}
    (keyed : layout.hasKey path = true) {v : Value} (fits : layout.schema.Fits v) :
    ∃ s, v.reach path = .text s ∧ isDigits 20 s = true ∧
      (layout.entity v).follow path = .text s := by
  induction layout generalizing path v with
  | ofUser inner ofInner =>
    simp only [hasKey] at keyed
    simp only [schema] at fits
    simpa only [entity] using ofInner (coherent_ofUser.mp sound).2 keyed fits
  | atom a =>
    obtain ⟨rfl, rfl⟩ : a = .required .snowflake ∧ path = [] := by
      unfold hasKey at keyed
      split at keyed <;> simp_all
    simp only [schema, Atom.schema, Leaf.schema, Schema.snowflake, Schema.Fits,
      TextForm.Accepts] at fits
    obtain ⟨s, rfl, digits⟩ := fits
    exact ⟨s, rfl, digits, rfl⟩
  | record fields ofFields =>
    cases path with
    | nil => simp [hasKey] at keyed
    | cons name rest =>
      obtain ⟨distinct, each⟩ := coherent_record.mp sound
      obtain ⟨inner, member, inside⟩ := mem_of_fieldsHaveKey (by simpa only [hasKey] using keyed)
      have admitted := (admits_record.mp (admits_of_fits fits)).2 _ member
      obtain ⟨s, wire, digits, own⟩ := ofFields _ member (each _ member) inside
        (fits_of_admits (required_of_hasKey inside) admitted)
      refine ⟨s, wire, digits, ?_⟩
      rw [entity, Value.follow, List.foldl_cons, get_entityFields distinct member]
      exact own
  | _ => simp [hasKey] at keyed

theorem keyText_of_reach {path : List String} {v : Value} {s : String}
    (found : v.reach path = .text s) : v.keyText path = s := by
  rw [Value.keyText, found]
  rfl

theorem outcome_readRecord {fields : List (String × String × Layout)} {v copy : Value}
    (there : copy.isVacant = false) {context : Option Context}
    (each : ∀ field ∈ fields, (field.2.2.form.read (copy.get field.1) context).outcome =
      .ok (field.2.2.entity (v.seen field.1))) :
    ((Form.record (formFields fields)).read copy context).outcome =
      .ok (.record (entityFields fields v)) := by
  have read : (Form.readFields copy context (formFields fields)).outcome =
      .ok (entityFields fields v) := by
    induction fields with
    | nil => rfl
    | cons head rest ih =>
      have found : copy.field head.1 = .ok (copy.get head.1) := by simp [Value.field, there]
      have first := each head (by simp)
      have others := ih fun field member => each field (by simp [member])
      simp only [formFields, Form.readFields, found, Traced.outcome_bind, Traced.outcome_ofExcept,
        Except.bind, first, others]
      rfl
  simp only [Form.record, Traced.outcome_bind, read]
  rfl

theorem outcome_readList {item : Layout} {items : List Value} {context : Option Context}
    {copy : Value → Value}
    (each : ∀ x ∈ items, (item.form.read (copy x) context).outcome = .ok (item.entity x)) :
    ((Form.list item.form).read (.list (items.map copy)) context).outcome =
      .ok (.list (items.map fun x => item.entity x)) := by
  simp only [Form.list, Value.items, Traced.outcome_bind, Traced.outcome_ofExcept, Except.bind,
    Traced.forEach_map, Traced.outcome_forEach each]
  rfl

/-- A copy of a list that may be missing is one without items where it is. -/
theorem copied_orElse {item : Schema} {v : Value} {items : List Value}
    (listed : v.orElse (.list []) = .list items) :
    ((Schema.list item).copied v).orElse (.list []) = .list (items.map fun x => item.copied x) := by
  rw [Value.orElse, Schema.isVacant_copied]
  cases vacant : v.isVacant with
  | true =>
    obtain rfl : [] = items := by simpa [Value.orElse, vacant] using listed
    rfl
  | false =>
    obtain rfl : v = .list items := by simpa [Value.orElse, vacant] using listed
    exact Schema.copied_list item items

/-- A copy of any admitted value is read, whatever the context: the checks of the single fields find
nothing that the schema lets pass. -/
theorem outcome_read {layout : Layout} (sound : layout.coherent = true) {v : Value}
    (admitted : layout.Admits v) (context : Option Context) :
    (layout.form.read (layout.schema.copied v) context).outcome = .ok (layout.entity v) := by
  induction layout generalizing v context with
  | atom a => exact Atom.outcome_read admitted context
  | record fields ofFields =>
    obtain ⟨isRecord, each⟩ := admits_record.mp admitted
    obtain ⟨distinct, sound⟩ := coherent_record.mp sound
    refine outcome_readRecord (Schema.not_vacant_copied isRecord) fun field member => ?_
    rw [get_copied distinct member]
    exact ofFields field member (sound field member) (each field member) context
  | part fields ofFields =>
    rcases admits_part.mp admitted with vacant | admitted
    · have missing : v.isMeaningful = false := by cases v <;> first | rfl | contradiction
      have same := Schema.copied_of_vacant (part fields).schema vacant
      simp only [form, Form.part, same, missing, entity, vacant]
      rfl
    · obtain ⟨isRecord, each⟩ := admits_record.mp admitted
      have there := Schema.not_vacant_of_isRecord isRecord
      obtain ⟨distinct, sound⟩ := coherent_record.mp (coherent_part.mp sound)
      simp only [form, Form.part, isMeaningful_copied isRecord, if_true, entity, there]
      refine outcome_readRecord (Schema.not_vacant_copied isRecord) fun field member => ?_
      rw [schema_part, get_copied distinct member]
      exact ofFields field member (sound field member) (each field member) context
  | ofUser inner ofInner =>
    obtain ⟨keyed, sound⟩ := coherent_ofUser.mp sound
    have fits := fits_of_admits (required_of_hasKey keyed) (admits_ofUser.mp admitted)
    obtain ⟨s, shown, _⟩ := follow_of_hasKey sound keyed fits
    have id := (follow_copied sound keyed v).trans shown
    simp only [form, schema, entity, Traced.outcome_bind, Traced.outcome_ofExcept,
      Value.field_of_follow id, Except.bind]
    exact ofInner sound (admits_ofUser.mp admitted) _
  | list item ofItem =>
    obtain ⟨items, rfl, each⟩ := admits_list.mp admitted
    rw [schema, Schema.copied_list]
    exact outcome_readList fun x member =>
      ofItem (coherent_list.mp sound).2 (admits_of_fits (each x member)) context
  | optionalList item ofItem =>
    obtain ⟨whole, each⟩ := listed_of_admits (admits_optionalList.mp admitted)
    have sound := coherent_list.mp (coherent_optionalList.mp sound)
    change ((Form.list item.form).read
      (((optionalList item).schema.copied v).orElse (.list [])) context).outcome = _
    rw [schema, copied_orElse whole]
    exact outcome_readList fun x member =>
      ofItem sound.2 (admits_of_fits (each x member)) context
  | keyed collection key item ofItem =>
    obtain ⟨keyed, sound⟩ := coherent_keyed.mp sound
    obtain ⟨whole, fits⟩ := listed_of_admits (admits_keyed.mp admitted)
    have each : ∀ x ∈ v.listed,
        (item.form.read (item.schema.copied x) context).outcome = .ok (item.entity x) ∧
          Value.follow key (item.entity x) = .text (Value.keyText key x) := by
      intro x member
      obtain ⟨s, wire, _, own⟩ := follow_of_hasKey sound keyed (fits x member)
      refine ⟨ofItem sound (admits_of_fits (fits x member)) context, ?_⟩
      rw [own, keyText_of_reach wire]
    obtain ⟨result, read, entries⟩ :=
      Keyed.outcome_decode Value.text_beq each (Entry.duplicateKey collection · context)
    rw [form, schema, Keyed.read_form (copied_orElse whole), Keyed.decode_map]
    simp only [Traced.outcome_bind, Except.bind, read, entity, ← entries]
    rfl

end Layout
end ChatGateway
