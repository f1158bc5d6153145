import ChatGateway.Proofs.Decoding
import ChatGateway.Proofs.Writing

/-! Entities survive the wire. `Layout.Holds` says which entities are well formed; each of them is
written, and what is written is accepted and stands for the same entity again. -/
namespace ChatGateway

namespace Value

/-- The two values are equal, where a record is told by its fields: their order does not count, and
a field that is not there is the same as an absent one. -/
inductive Same : Value → Value → Prop
  | refl (v : Value) : Same v v
  | list {xs ys : List Value} : List.Forall₂ Same xs ys → Same (.list xs) (.list ys)
  | record {xs ys : List (String × Value)} :
      (∀ name, Same ((Value.record xs).get name) ((Value.record ys).get name)) →
      Same (.record xs) (.record ys)
  | map {xs ys : List (Value × Value)} : xs.map Prod.fst = ys.map Prod.fst →
      List.Forall₂ Same (xs.map Prod.snd) (ys.map Prod.snd) → Same (.map xs) (.map ys)

theorem Same.of_eq {v w : Value} (equal : v = w) : v.Same w :=
  equal ▸ .refl v

theorem Same.get {v w : Value} (same : v.Same w) (name : String) :
    (v.get name).Same (w.get name) := by
  cases same with
  | refl => exact .refl _
  | list _ => exact .refl _
  | record fields => exact fields name
  | @map xs ys keys _ =>
    have size : xs.length = ys.length := by
      simpa only [List.length_map] using congrArg List.length keys
    rw [Value.get, Value.get, size]
    exact .refl _

theorem Same.follow {v w : Value} (same : v.Same w) (path : List String) :
    (v.follow path).Same (w.follow path) := by
  induction path generalizing v w with
  | nil => exact same
  | cons name rest ih => exact ih (same.get name)

theorem Same.eq_of_text {s : String} {v : Value} (same : Same (.text s) v) : v = .text s := by
  cases same
  rfl

end Value

namespace Leaf

def Holds : Leaf → Value → Prop
  | .free, v => ∃ s, v = .text s
  | .snowflake, v => ∃ s, v = .text s ∧ isDigits 20 s = true
  | .uri, v => ∃ s, v = .text s ∧ s ≠ "" ∧ Uri.accepts s = true
  | .status, v => ∃ status : OnlineStatus, v = .text status.text
  | .boolean, v => ∃ b, v = .bool b
  | .count, v => v.IsCount
  | .pair, v => ∃ a b, v = .list [a, b] ∧ a.IsCount ∧ b.IsCount

theorem fits_of_holds {leaf : Leaf} {v : Value} (held : leaf.Holds v) : leaf.schema.Fits v := by
  cases leaf with
  | free =>
    obtain ⟨s, rfl⟩ := held
    simp [schema, Schema.free, Schema.Fits, TextForm.Accepts]
  | snowflake | uri =>
    simp only [schema, Schema.snowflake, Schema.Fits, TextForm.Accepts]
    exact held
  | status =>
    obtain ⟨status, rfl⟩ := held
    simp only [schema, Schema.status, Schema.Fits, TextForm.Accepts]
    exact ⟨_, rfl, by cases status <;> decide, by cases status <;> decide⟩
  | boolean | count | pair =>
    simp only [schema, Schema.Fits]
    exact held

theorem isJson_of_isCount {v : Value} (count : v.IsCount) : v.IsJson := by
  obtain ⟨n, _, rfl⟩ := count
  exact .number _

theorem isJson_of_holds {leaf : Leaf} {v : Value} (held : leaf.Holds v) : v.IsJson := by
  cases leaf with
  | free | boolean =>
    obtain ⟨_, rfl⟩ := held
    simp
  | snowflake | uri =>
    obtain ⟨s, rfl, _⟩ := held
    simp
  | status =>
    obtain ⟨status, rfl⟩ := held
    simp
  | count => exact isJson_of_isCount held
  | pair =>
    obtain ⟨a, b, rfl, first, second⟩ := held
    simp [isJson_of_isCount first, isJson_of_isCount second]

theorem fits_list_of_holds {leaf : Leaf} {items : List Value}
    (each : ∀ x ∈ items, leaf.Holds x) : (Schema.list leaf.schema).Fits (.list items) :=
  Schema.fits_list.mpr ⟨items, rfl, fun x member => fits_of_holds (each x member)⟩

theorem isJson_list_of_holds {leaf : Leaf} {items : List Value}
    (each : ∀ x ∈ items, leaf.Holds x) : (Value.list items).IsJson :=
  .list fun x member => isJson_of_holds (each x member)

end Leaf

/-- A button with a label and a link and nothing else. -/
def ActivityButton.Holds (v : Value) : Prop :=
  ∃ entries, v = .record entries ∧ entries.map Prod.fst ⊆ ["label", "url"] ∧
    ∃ label url, v.get "label" = .text label ∧ v.get "url" = .text url

def Atom.Holds : Atom → Value → Prop
  | .required leaf, v => leaf.Holds v
  | .optional leaf, v => v = .absent ∨ leaf.Holds v
  | .switch, v => ∃ b, v = .bool b
  | .discriminator, v => ∃ n ≤ 9999, v = .ofNat n
  | .optionalDiscriminator, v => v = .absent ∨ ∃ n ≤ 9999, v = .ofNat n
  | .flags table, v => ∃ n ≤ Number.safeLimit, v = .flags ⟨table, n⟩
  | .optionalFlags table, v => v = .absent ∨ ∃ n ≤ Number.safeLimit, v = .flags ⟨table, n⟩
  | .kind kinds, v | .optionalKind kinds, v => ∃ code ∈ kinds.known, v = .number code
  | .buttons, v => ∃ items, v = .list items ∧ ∀ item ∈ items, ActivityButton.Holds item
  | .leaves leaf, v | .optionalLeaves leaf, v =>
    ∃ items, v = .list items ∧ ∀ item ∈ items, leaf.Holds item

namespace Layout

mutual

/-- The well-formed entities of a layout. A map has distinct keys, and each is the one that its
value carries. -/
def Holds : Layout → Value → Prop
  | .atom a, v => a.Holds v
  | .record fields, v => ∃ entries, v = .record entries ∧
      entries.map Prod.fst ⊆ fields.map (·.2.1) ∧ FieldsHold fields v
  | .part fields, v => v = .absent ∨ ∃ entries, v = .record entries ∧
      entries.map Prod.fst ⊆ fields.map (·.2.1) ∧ FieldsHold fields v
  | .ofUser inner, v => inner.Holds v
  | .list item, v | .optionalList item, v => ∃ items, v = .list items ∧ ∀ x ∈ items, item.Holds x
  | .keyed _ key item, v => ∃ entries, v = .map entries ∧ (entries.map Prod.fst).Nodup ∧
      ∀ entry ∈ entries, item.Holds entry.2 ∧ entry.1 = entry.2.follow key

def FieldsHold : List (String × String × Layout) → Value → Prop
  | [], _ => True
  | (_, name, layout) :: rest, v => layout.Holds (v.get name) ∧ FieldsHold rest v

end

theorem fieldsHold_iff {fields : List (String × String × Layout)} {v : Value} :
    FieldsHold fields v ↔ ∀ field ∈ fields, field.2.2.Holds (v.get field.2.1) := by
  induction fields with
  | nil => simp [FieldsHold]
  | cons head rest ih => simp [FieldsHold, ih]

/-- The entity is written as this text, which is accepted and stands for the same entity. -/
structure Writes (layout : Layout) (entity wire : Value) : Prop where
  written : layout.form.write entity = .ok wire
  admitted : layout.Admits wire
  payload : wire.IsPayload
  same : (layout.entity wire).Same entity

end Layout

theorem Discriminator.fits_fourDigits (n : Nat) :
    Schema.discriminator.Fits (.text (fourDigits n)) := by
  simp only [Schema.discriminator, Schema.Fits, TextForm.Accepts]
  exact ⟨_, rfl, isDigits_fourDigits n⟩

theorem Discriminator.same_ofWritten {n : Nat} (small : n ≤ 9999) :
    (ofWritten (.text (fourDigits n))).Same (.ofNat n) := by
  rw [ofWritten, Value.text?, Option.getD_some, decimal_fourDigits small]
  exact .refl _

theorem Schema.fits_of_known {kinds : Enumeration} (sound : (Atom.kind kinds).coherent = true)
    {code : Number} (listed : code ∈ kinds.known) : Schema.number.Fits (.number code) := by
  simp only [Atom.coherent, List.all_eq_true, List.isEmpty_iff] at sound
  exact Schema.checkNumber_eq_nil_iff.mp (sound code listed)

namespace ActivityButton

def wire (v : Value) : Value :=
  .record [("label", v.get "label"), ("url", v.get "url")]

theorem wire_of_holds {v : Value} (held : Holds v) :
    itemSchema.Fits (wire v) ∧ (wire v).IsJson ∧ (ofItem (wire v)).Same v := by
  obtain ⟨entries, rfl, listed, label, url, labelled, linked⟩ := held
  rw [wire, labelled, linked]
  refine ⟨?_, by simp, .record fun name => ?_⟩
  · have shown (name : String) :
        (Value.record [("label", .text label), ("url", .text url)]).seen name =
          (Value.record [("label", .text label), ("url", .text url)]).get name :=
      Value.seen_of_not_mem (by simp [Value.parentField]) name
    simp [itemSchema, Schema.Fits, Schema.FieldsFit, Schema.activityButton, Schema.free,
      TextForm.Accepts, Value.isRecord, shown, Value.get, List.lookup_cons]
  · by_cases known : name ∈ ["label", "url"]
    · simp only [List.mem_cons, List.not_mem_nil, or_false] at known
      rcases known with rfl | rfl
      · exact .of_eq labelled.symm
      · exact .of_eq linked.symm
    · have unlisted := Value.get_record_of_not_mem fun member => known (listed member)
      have unwritten := @Value.get_record_of_not_mem
        [("label", .text label), ("url", .text url)] name known
      exact .of_eq (unwritten.trans unlisted.symm)

theorem writes_of_holds {items : List Value} (each : ∀ item ∈ items, Holds item) :
    ∃ text, (Layout.atom .buttons).Writes (.list items) text := by
  refine ⟨.list (items.map wire), write_texts fun item member => ?_, .inr ?_, .inr ?_, .list ?_⟩
  · obtain ⟨_, _, _, label, url, labelled, linked⟩ := each item member
    exact ⟨label, url, labelled, linked⟩
  · refine Schema.fits_list.mpr ⟨_, rfl, List.forall_mem_map.mpr fun item member => ?_⟩
    exact (wire_of_holds (each item member)).1
  · simpa using fun item member => (wire_of_holds (each item member)).2.1
  · rw [Value.listed, List.map_map, List.forall₂_map_left_iff, List.forall₂_same]
    exact fun item member => (wire_of_holds (each item member)).2.2

end ActivityButton

namespace Atom

theorem writes_of_holds {a : Atom} (sound : a.coherent = true) {v : Value} (held : a.Holds v) :
    ∃ wire, (Layout.atom a).Writes v wire := by
  cases a with
  | required leaf =>
    exact ⟨v, rfl, Leaf.fits_of_holds held, .inr (Leaf.isJson_of_holds held), .refl v⟩
  | optional leaf =>
    rcases held with rfl | held
    · exact ⟨.null, rfl, .inl rfl, .inr .null, .refl _⟩
    · have fits := Leaf.fits_of_holds held
      have there := Schema.not_vacant_of_fits fits
      have kept (fallback : Value) : v.orElse fallback = v := by simp [Value.orElse, there]
      refine ⟨v, congrArg Except.ok (kept .null), .inr fits, .inr (Leaf.isJson_of_holds held), ?_⟩
      rw [Layout.entity, entity, kept]
      exact .refl v
  | switch =>
    obtain ⟨b, rfl⟩ := held
    exact ⟨.bool b, rfl, .inr (Schema.fits_boolean.mpr ⟨b, rfl⟩), .inr (.bool b), .refl _⟩
  | discriminator =>
    obtain ⟨n, small, rfl⟩ := held
    exact ⟨_, Discriminator.write_ofNat small, Discriminator.fits_fourDigits n, .inr (.text _),
      Discriminator.same_ofWritten small⟩
  | optionalDiscriminator =>
    rcases held with rfl | ⟨n, small, rfl⟩
    · exact ⟨.absent, rfl, .inl rfl, .inl rfl, .refl _⟩
    · exact ⟨_, Discriminator.write_ofNat small, .inr (Discriminator.fits_fourDigits n),
        .inr (.text _), Discriminator.same_ofWritten small⟩
  | flags table =>
    obtain ⟨n, safe, rfl⟩ := held
    refine ⟨.ofNat n, FlagTable.encode_flags safe, Schema.fits_count.mpr ⟨n, safe, rfl⟩,
      .inr (.number _), ?_⟩
    exact .of_eq (by rw [Layout.entity, entity, Value.natural_ofNat safe])
  | optionalFlags table =>
    rcases held with rfl | ⟨n, safe, rfl⟩
    · exact ⟨.null, rfl, .inl rfl, .inr .null, .refl _⟩
    · refine ⟨.ofNat n, FlagTable.encode_flags safe, .inr (Schema.fits_count.mpr ⟨n, safe, rfl⟩),
        .inr (.number _), ?_⟩
      have there : (Value.ofNat n).isVacant = false := rfl
      exact .of_eq (by simp only [Layout.entity, entity, there, Bool.false_eq_true, if_false,
        Value.natural_ofNat safe])
  | kind kinds =>
    obtain ⟨code, listed, rfl⟩ := held
    have known := Enumeration.isKnown_number_iff.mpr listed
    have fits := Schema.fits_of_known sound listed
    refine ⟨_, Enumeration.encode_of_isKnown known, fits, .inr (.number _), ?_⟩
    rw [Layout.entity, entity, if_pos known]
    exact .refl _
  | optionalKind kinds =>
    obtain ⟨code, listed, rfl⟩ := held
    have known := Enumeration.isKnown_number_iff.mpr listed
    have fits := Schema.fits_of_known sound listed
    refine ⟨_, Enumeration.encode_of_isKnown known, .inr fits, .inr (.number _), ?_⟩
    simp only [Layout.entity, entity, Value.isVacant, known, if_true]
    exact .refl _
  | buttons =>
    obtain ⟨items, rfl, each⟩ := held
    exact ActivityButton.writes_of_holds each
  | leaves leaf =>
    obtain ⟨items, rfl, each⟩ := held
    exact ⟨.list items, rfl, Leaf.fits_list_of_holds each, .inr (Leaf.isJson_list_of_holds each),
      .refl _⟩
  | optionalLeaves leaf =>
    obtain ⟨items, rfl, each⟩ := held
    exact ⟨.list items, rfl, .inr (Leaf.fits_list_of_holds each),
      .inr (Leaf.isJson_list_of_holds each), .refl _⟩

end Atom

namespace Layout

theorem isJson_of_fits {shape : Schema} {v : Value} (fits : shape.Fits v) (given : v.IsPayload) :
    v.IsJson := by
  refine given.resolve_left ?_
  rintro rfl
  exact Schema.not_fits_absent fits

theorem writes_record {fields : List (String × String × Layout)}
    (distinct : soundNames fields = true) {entries : List (String × Value)}
    (listed : entries.map Prod.fst ⊆ fields.map (·.2.1))
    (each : ∀ field ∈ fields,
      ∃ wire, field.2.2.Writes ((Value.record entries).get field.2.1) wire) :
    ∃ wire, (record fields).Writes (.record entries) wire := by
  choose! wire writes using each
  refine ⟨.record (written fields wire), ?_, ?_, ?_, ?_⟩
  · exact write_record rfl fun field member => (writes field member).written
  · refine admits_record.mpr ⟨rfl, fun field member => ?_⟩
    rw [seen_written distinct member]
    exact (writes field member).admitted
  · refine .inr (.record fun entry member => ?_)
    obtain ⟨field, held, inside⟩ := List.mem_flatMap.mp member
    rcases Form.writtenField_cases field.1 (wire field) with ⟨_, none⟩ | ⟨there, one⟩
    · rw [none] at inside
      contradiction
    · rw [one, List.mem_singleton] at inside
      rw [inside]
      exact (writes field held).payload.resolve_left there
  · refine .record fun name => ?_
    by_cases known : name ∈ fields.map (·.2.1)
    · obtain ⟨field, member, rfl⟩ := List.mem_map.mp known
      rw [get_entityFields distinct member, seen_written distinct member]
      exact (writes field member).same
    · have unlisted := Value.get_record_of_not_mem fun member => known (listed member)
      have unread : (Value.record (entityFields fields (.record (written fields wire)))).get name =
          .absent := by
        refine Value.get_record_of_not_mem ?_
        rw [entityFields_eq_map, List.map_map]
        exact known
      exact .of_eq (unread.trans unlisted.symm)

theorem writes_list {item : Layout} (required : item.occurrence = .required) {items : List Value}
    (each : ∀ x ∈ items, ∃ wire, item.Writes x wire) :
    ∃ wire, (list item).Writes (.list items) wire := by
  choose! wire writes using each
  have fits : ∀ x ∈ items, item.schema.Fits (wire x) := fun x member =>
    fits_of_admits required (writes x member).admitted
  refine ⟨.list (items.map wire), ?_, ?_, ?_, ?_⟩
  · have written := @write_list _ item items id wire fun x member => (writes x member).written
    rwa [List.map_id] at written
  · exact admits_list.mpr ⟨_, rfl, List.forall_mem_map.mpr fits⟩
  · refine .inr (.list (List.forall_mem_map.mpr fun x member => ?_))
    exact isJson_of_fits (fits x member) (writes x member).payload
  · refine .list ?_
    rw [Value.listed, List.map_map, List.forall₂_map_left_iff, List.forall₂_same]
    exact fun x member => (writes x member).same

/-- A map is written as the list of its values. Their keys are found in it again, in the same
order, since no two of them are equal. -/
theorem writes_keyed {collection : String} {key : List String} {item : Layout}
    (sound : item.coherent = true) (keyed : item.hasKey key = true)
    {entries : List (Value × Value)} (distinct : (entries.map Prod.fst).Nodup)
    (each : ∀ entry ∈ entries,
      (∃ wire, item.Writes entry.2 wire) ∧ entry.1 = entry.2.follow key) :
    ∃ wire, (Layout.keyed collection key item).Writes (.map entries) wire := by
  have written : ∀ entry ∈ entries, ∃ wire, item.Writes entry.2 wire := fun entry member =>
    (each entry member).1
  choose! wire writes using written
  have fits : ∀ entry ∈ entries, item.schema.Fits (wire entry) := fun entry member =>
    fits_of_admits (required_of_hasKey keyed) (writes entry member).admitted
  have keys : ∀ entry ∈ entries, .text (Value.keyText key (wire entry)) = entry.1 := by
    intro entry member
    obtain ⟨s, found, _, own⟩ := follow_of_hasKey sound keyed (fits entry member)
    have same := (writes entry member).same.follow key
    rw [own] at same
    rw [keyText_of_reach found, (each entry member).2, same.eq_of_text]
  refine ⟨.list (entries.map wire), ?_, ?_, ?_, ?_⟩
  · have written := @write_keyed _ item entries id wire (Value.follow key) collection
      fun entry member => (writes entry member).written
    rwa [List.map_id] at written
  · exact admits_keyed.mpr (.inr (admits_list.mpr ⟨_, rfl, List.forall_mem_map.mpr fits⟩))
  · refine .inr (.list (List.forall_mem_map.mpr fun entry member => ?_))
    exact isJson_of_fits (fits entry member) (writes entry member).payload
  · have texts : ((entries.map wire).map (Value.keyText key)).map Value.text =
        entries.map Prod.fst := by
      rw [List.map_map, List.map_map]
      exact List.map_congr_left keys
    have nodup : ((entries.map wire).map (Value.keyText key)).Nodup :=
      List.Nodup.of_map _ (texts ▸ distinct)
    simp only [entity, Value.listed, lastOfEach_of_nodup nodup, List.map_map]
    refine .map ?_ ?_
    · rw [← texts, List.map_map, List.map_map, List.map_map]
      rfl
    · rw [List.map_map, List.forall₂_map_left_iff, List.forall₂_map_right_iff, List.forall₂_same]
      exact fun entry member => (writes entry member).same

/-- Every well-formed entity is written as a text that is admitted and stands for it again. -/
theorem writes_of_holds {layout : Layout} (sound : layout.coherent = true) {v : Value}
    (held : layout.Holds v) : ∃ wire, layout.Writes v wire := by
  induction layout generalizing v with
  | atom a =>
    simp only [Holds] at held
    exact Atom.writes_of_holds (by simpa only [coherent] using sound) held
  | record fields ofFields =>
    simp only [Holds, fieldsHold_iff] at held
    obtain ⟨entries, rfl, listed, each⟩ := held
    obtain ⟨distinct, sound⟩ := coherent_record.mp sound
    exact writes_record distinct listed fun field member =>
      ofFields field member (sound field member) (each field member)
  | part fields ofFields =>
    simp only [Holds, fieldsHold_iff] at held
    obtain ⟨distinct, sound⟩ := coherent_record.mp (coherent_part.mp sound)
    rcases held with rfl | ⟨entries, rfl, listed, each⟩
    · exact ⟨.null, rfl, .inl rfl, .inr .null, .refl _⟩
    · obtain ⟨wire, written, admitted, payload, same⟩ := writes_record distinct listed
        fun field member => ofFields field member (sound field member) (each field member)
      refine ⟨wire, written, admits_part.mpr (.inr admitted), payload, ?_⟩
      have there := Schema.not_vacant_of_isRecord (admits_record.mp admitted).1
      simp only [entity, there]
      exact same
  | ofUser inner ofInner =>
    simp only [Holds] at held
    obtain ⟨wire, written, admitted, payload, same⟩ := ofInner (coherent_ofUser.mp sound).2 held
    exact ⟨wire, written, admits_ofUser.mpr admitted, payload, same⟩
  | list item ofItem =>
    simp only [Holds] at held
    obtain ⟨items, rfl, each⟩ := held
    obtain ⟨required, sound⟩ := coherent_list.mp sound
    exact writes_list required fun x member => ofItem sound (each x member)
  | optionalList item ofItem =>
    simp only [Holds] at held
    obtain ⟨items, rfl, each⟩ := held
    obtain ⟨required, sound⟩ := coherent_list.mp (coherent_optionalList.mp sound)
    obtain ⟨wire, written, admitted, payload, same⟩ :=
      writes_list required fun x member => ofItem sound (each x member)
    exact ⟨wire, written, admits_optionalList.mpr (.inr admitted), payload, same⟩
  | keyed collection key item ofItem =>
    simp only [Holds] at held
    obtain ⟨entries, rfl, distinct, each⟩ := held
    obtain ⟨keyed, sound⟩ := coherent_keyed.mp sound
    exact writes_keyed sound keyed distinct fun entry member =>
      ⟨ofItem sound (each entry member).1, (each entry member).2⟩

end Layout

namespace RecordType

/-- Decoding undoes encoding: every well-formed entity is encoded, and what it is encoded as is
decoded to an equal one. -/
theorem decode_encode (r : RecordType) (call : Call) (configured : r.Configured call)
    (entity : Value) (held : r.layout.Holds entity) :
    ∃ wire, r.form.write entity = .ok wire ∧
      ∃ decoded, (r.decode wire call).outcome = .ok decoded ∧ decoded.Same entity := by
  obtain ⟨wire, written, admitted, payload, same⟩ :=
    Layout.writes_of_holds r.coherent_layout held
  rw [form_layout] at written
  have fits := Layout.fits_of_admits r.required_layout admitted
  rw [schema_layout] at fits
  have decoded := outcome_decode_of_fits configured (Schema.breaksDown_of_isPayload payload) fits
  exact ⟨wire, written, _, decoded, same⟩

/-- A presence whose texts, flag set and assets are empty, but there. -/
def resting : Value := .record [
  ("status", .text "idle"),
  ("user", .record [
    ("id", .text "5"), ("name", .text ""), ("publicFlags", .flags ⟨.userPublic, 0⟩)]),
  ("activities", .list [.record [
    ("name", .text ""), ("kind", .number ActivityKind.custom), ("assets", .record []),
    ("buttons", .list []), ("instance", .bool false)]])]

theorem decode_encode_resting : presence.layout.Holds resting ∧
    ∃ wire, Presence.form.write resting = .ok wire ∧
      ∃ decoded, (Presence.decode wire none).outcome = .ok decoded ∧ decoded.Same resting := by
  have held : presence.layout.Holds resting := by
    simp [layout, resting, Layout.presence, Layout.presenceUser, Layout.activity, Layout.required,
      Layout.optional, Layout.Holds, Layout.FieldsHold, Atom.Holds, Leaf.Holds, Value.get,
      List.lookup_cons, isDigits]
    exact ⟨by decide, ⟨.idle, rfl⟩, by decide, 0, by decide, rfl⟩
  exact ⟨held, decode_encode .presence (.within none) (configured_of_ne (by decide)) resting held⟩

end RecordType
end ChatGateway
