import ChatGateway.Proofs.Decoding
import ChatGateway.Proofs.Writing

/-! The canonical text of a payload. `Layout.canon` says which it is without reading or writing
anything: of the fields that are seen in a record those outside the schema are dropped, missing ones
are filled in, and of the elements under one key the last takes the place of the first. Decoding a
state and encoding it again gives this text. -/
namespace ChatGateway

def Discriminator.canon : Value → Value
  | .text s => .text (padded s)
  | v => v

namespace Atom

/-- A field is left out of the text. Only the discriminator of a partial user is, if it is missing:
whatever else is missing has a text in its place. -/
def leftOut : Atom → Value → Bool
  | .optionalDiscriminator, v => v.isVacant
  | _, _ => false

/-- The text of a field that is not left out. -/
def canon : Atom → Value → Value
  | .required _, v | .flags _, v | .kind _, v | .leaves _, v => v
  | .optional _, v | .optionalFlags _, v => v.orElse .null
  | .switch, v => v.orElse (.bool false)
  | .discriminator, v | .optionalDiscriminator, v => Discriminator.canon v
  | .optionalKind kinds, v => v.orElse (.number kinds.first)
  | .buttons, v => .list (v.listed.map ActivityButton.ofItem)
  | .optionalLeaves _, v => v.orElse (.list [])

/-- The kind, if one is given, is one that can be written again. -/
def Coded : Atom → Value → Prop
  | .kind kinds, v => kinds.isKnown v = true
  | .optionalKind kinds, v => v = .absent ∨ kinds.isKnown v = true
  | _, _ => True

end Atom

namespace Layout

def leftOut : Layout → Value → Bool
  | .atom a, v => a.leftOut v
  | .ofUser inner, v => inner.leftOut v
  | _, _ => false

mutual

/-- The canonical text of a value. -/
def canon : Layout → Value → Value
  | .atom a, v => a.canon v
  | .record fields, v => .record (canonFields fields v)
  | .part fields, v => if v.isVacant then .null else .record (canonFields fields v)
  | .ofUser inner, v => inner.canon v
  | .list item, v | .optionalList item, v => .list (v.listed.map fun x => item.canon x)
  | .keyed _ key item, v =>
    .list ((lastOfEach (Value.keyText key) v.listed).map fun entry => item.canon entry.2)

def canonFields : List (String × String × Layout) → Value → List (String × Value)
  | [], _ => []
  | (wireName, _, layout) :: rest, v =>
    if layout.leftOut (v.seen wireName) then canonFields rest v
    else (wireName, layout.canon (v.seen wireName)) :: canonFields rest v

end

/-- What is written for a value: its canonical text, and nothing where it is left out. -/
def placed (layout : Layout) (v : Value) : Value :=
  if layout.leftOut v then .absent else layout.canon v

mutual

/-- All kinds in what is kept can be written again. -/
def Coded : Layout → Value → Prop
  | .atom a, v => a.Coded v
  | .record fields, v => FieldsCoded fields v
  | .part fields, v => v.isVacant = true ∨ FieldsCoded fields v
  | .ofUser inner, v => inner.Coded v
  | .list item, v | .optionalList item, v => ∀ x ∈ v.listed, item.Coded x
  | .keyed _ key item, v => ∀ entry ∈ lastOfEach (Value.keyText key) v.listed, item.Coded entry.2

def FieldsCoded : List (String × String × Layout) → Value → Prop
  | [], _ => True
  | (wireName, _, layout) :: rest, v => layout.Coded (v.seen wireName) ∧ FieldsCoded rest v

end

theorem fieldsCoded_iff {fields : List (String × String × Layout)} {v : Value} :
    FieldsCoded fields v ↔ ∀ field ∈ fields, field.2.2.Coded (v.seen field.1) := by
  induction fields with
  | nil => simp [FieldsCoded]
  | cons head rest ih => simp [FieldsCoded, ih]

end Layout

theorem Discriminator.write_ofWritten {field : String} {v : Value}
    (fits : Schema.discriminator.Fits v) :
    (Discriminator.form field).write (ofWritten v) = .ok (canon v) := by
  simp only [Schema.discriminator, Schema.Fits, TextForm.Accepts] at fits
  obtain ⟨s, rfl, digits⟩ := fits
  obtain ⟨same, small⟩ := fourDigits_decimal digits
  rw [canon, ← same]
  exact write_ofNat small

theorem FlagTable.encode_natural {table : FlagTable} {v : Value} (count : v.IsCount) :
    encode (.flags ⟨table, v.natural⟩) = .ok v := by
  obtain ⟨n, safe, rfl⟩ := count
  rw [Value.natural_ofNat safe]
  exact encode_flags safe

theorem ActivityButton.write_ofItem {items : List Value}
    (fits : ∀ item ∈ items, itemSchema.Fits item) :
    written.write (.list (items.map ofItem)) = .ok (.list (items.map ofItem)) := by
  obtain ⟨buttons, _, same⟩ := exists_buttons_of_fits fits
  rw [← same]
  exact write_toValue buttons

theorem Enumeration.isKnown_first (kinds : Enumeration) :
    kinds.isKnown (.number kinds.first) = true :=
  isKnown_number_iff.mpr List.mem_cons_self

theorem Discriminator.there_canon {v : Value} (fits : Schema.discriminator.Fits v) :
    canon v ≠ .absent := by
  simp only [Schema.discriminator, Schema.Fits] at fits
  obtain ⟨s, rfl, _⟩ := fits
  exact Value.noConfusion

theorem Value.ne_absent_of_isVacant {v : Value} (there : v.isVacant = false) : v ≠ .absent := by
  rintro rfl
  contradiction

theorem Value.orElse_ne_absent {v fallback : Value} (given : fallback ≠ .absent) :
    v.orElse fallback ≠ .absent := by
  rw [orElse]
  split
  · exact given
  · rename_i there
    exact ne_absent_of_isVacant (Bool.eq_false_iff.mpr there)

namespace Atom

/-- What is not left out has a text. -/
theorem there_canon {a : Atom} {v : Value} (admitted : Schema.Admits a.occurrence a.schema v)
    (kept : a.leftOut v = false) : a.canon v ≠ .absent := by
  cases a with
  | required leaf | flags table | kind kinds | leaves leaf =>
    exact Value.ne_absent_of_isVacant (Schema.not_vacant_of_fits admitted)
  | optional leaf | optionalFlags table | switch | optionalKind kinds | optionalLeaves leaf =>
    exact Value.orElse_ne_absent Value.noConfusion
  | discriminator => exact Discriminator.there_canon admitted
  | optionalDiscriminator =>
    exact Discriminator.there_canon (admitted.resolve_left (Bool.eq_false_iff.mp kept))
  | buttons => exact Value.noConfusion

theorem write_entity {a : Atom} {v : Value} (admitted : Schema.Admits a.occurrence a.schema v)
    (coded : a.Coded v) :
    a.form.write (a.entity v) = .ok (if a.leftOut v then .absent else a.canon v) := by
  cases a with
  | required leaf => rfl
  | switch => rfl
  | optional leaf => cases v <;> rfl
  | discriminator => exact Discriminator.write_ofWritten admitted
  | optionalDiscriminator =>
    cases vacant : v.isVacant with
    | true =>
      simp only [entity, leftOut, vacant, if_true]
      rfl
    | false =>
      simp only [entity, leftOut, vacant, canon]
      exact Discriminator.write_ofWritten (admitted.resolve_left (by simp [vacant]))
  | flags table =>
    simp only [Schema.Admits, occurrence, schema, Schema.Fits] at admitted
    exact FlagTable.encode_natural admitted
  | optionalFlags table =>
    simp only [Schema.Admits, occurrence, schema, Schema.Fits] at admitted
    by_cases vacant : v.isVacant = true
    · simp only [entity, canon, Value.orElse, vacant, if_true]
      rfl
    · simp only [entity, canon, Value.orElse, vacant]
      exact FlagTable.encode_natural (admitted.resolve_left vacant)
  | kind kinds =>
    simp only [Coded] at coded
    simp only [entity, coded, if_true]
    exact Enumeration.encode_of_isKnown coded
  | optionalKind kinds =>
    rcases coded with rfl | known
    · exact Enumeration.encode_of_isKnown kinds.isKnown_first
    · have there : v.isVacant = false := by
        cases v <;> first | rfl | (simp [Enumeration.isKnown, Value.number?] at known)
      simp only [entity, canon, Value.orElse, there, known, if_true]
      exact Enumeration.encode_of_isKnown known
  | buttons =>
    rcases admitted with vacant | fits
    · have none : v.listed = [] := by cases v <;> first | rfl | contradiction
      simp only [entity, canon, none]
      rfl
    · obtain ⟨items, rfl, each⟩ := Schema.fits_list.mp fits
      exact ActivityButton.write_ofItem each
  | leaves leaf =>
    obtain ⟨items, rfl, _⟩ := by simpa only [Schema.Admits, occurrence, schema, Schema.Fits] using
      admitted
    rfl
  | optionalLeaves leaf =>
    rcases admitted with rfl | fits
    · rfl
    · obtain ⟨items, rfl, _⟩ := by simpa only [schema, Schema.Fits] using fits
      rfl

end Atom

namespace Layout

theorem there_canon {layout : Layout} {v : Value} (admitted : layout.Admits v)
    (kept : layout.leftOut v = false) : layout.canon v ≠ .absent := by
  induction layout with
  | atom a => exact Atom.there_canon admitted kept
  | ofUser inner ofInner => exact ofInner (admits_ofUser.mp admitted) kept
  | part fields _ =>
    rw [canon]
    split <;> exact Value.noConfusion
  | _ => exact Value.noConfusion

/-- What has to be there is not left out. -/
theorem sent_of_required {layout : Layout} (required : layout.occurrence = .required) (v : Value) :
    layout.placed v = layout.canon v := by
  have kept : layout.leftOut v = false := by
    induction layout with
    | atom a => cases a <;> first | rfl | contradiction
    | ofUser inner ofInner => exact ofInner required
    | _ => rfl
  rw [placed, kept]
  rfl

theorem written_placed {fields : List (String × String × Layout)} {v : Value}
    (admitted : ∀ field ∈ fields, field.2.2.Admits (v.seen field.1)) :
    written fields (fun field => field.2.2.placed (v.seen field.1)) = canonFields fields v := by
  induction fields with
  | nil => rfl
  | cons head rest ih =>
    have others := ih fun field member => admitted field (by simp [member])
    have own := admitted head (by simp)
    rw [written, List.flatMap_cons, ← written, others, canonFields, placed]
    cases left : head.2.2.leftOut (v.seen head.1) with
    | true => rfl
    | false =>
      rcases Form.writtenField_cases head.1 (head.2.2.canon (v.seen head.1)) with
        ⟨gone, _⟩ | ⟨_, one⟩
      · exact absurd gone (there_canon own left)
      · rw [if_neg Bool.false_ne_true, one, if_neg Bool.false_ne_true, List.singleton_append]

theorem write_entityFields {fields : List (String × String × Layout)} {v : Value}
    (distinct : soundNames fields = true)
    (admitted : ∀ field ∈ fields, field.2.2.Admits (v.seen field.1))
    (each : ∀ field ∈ fields, field.2.2.form.write (field.2.2.entity (v.seen field.1)) =
      .ok (field.2.2.placed (v.seen field.1))) :
    (Form.record (formFields fields)).write (.record (entityFields fields v)) =
      .ok (.record (canonFields fields v)) := by
  rw [← written_placed admitted]
  refine write_record rfl fun field member => ?_
  rw [get_entityFields distinct member]
  exact each field member

/-- Writing what was read gives the canonical text. -/
theorem write_entity {layout : Layout} (sound : layout.coherent = true) {v : Value}
    (admitted : layout.Admits v) (coded : layout.Coded v) :
    layout.form.write (layout.entity v) = .ok (layout.placed v) := by
  induction layout generalizing v with
  | atom a => exact Atom.write_entity admitted (by simpa only [Coded] using coded)
  | record fields ofFields =>
    simp only [Coded, fieldsCoded_iff] at coded
    obtain ⟨distinct, sound⟩ := coherent_record.mp sound
    obtain ⟨_, each⟩ := admits_record.mp admitted
    exact write_entityFields distinct each fun field member =>
      ofFields field member (sound field member) (each field member) (coded field member)
  | part fields ofFields =>
    simp only [Coded, fieldsCoded_iff] at coded
    obtain ⟨distinct, sound⟩ := coherent_record.mp (coherent_part.mp sound)
    by_cases vacant : v.isVacant = true
    · simp only [entity, placed, leftOut, canon, vacant, if_true]
      rfl
    · obtain ⟨_, each⟩ := admits_record.mp ((admits_part.mp admitted).resolve_left vacant)
      have coded := coded.resolve_left vacant
      simp only [entity, placed, leftOut, canon, vacant]
      exact write_entityFields distinct each fun field member =>
        ofFields field member (sound field member) (each field member) (coded field member)
  | ofUser inner ofInner =>
    exact ofInner (coherent_ofUser.mp sound).2 (admits_ofUser.mp admitted)
      (by simpa only [Coded] using coded)
  | list item ofItem =>
    obtain ⟨required, sound⟩ := coherent_list.mp sound
    obtain ⟨items, rfl, each⟩ := admits_list.mp admitted
    simp only [Coded] at coded
    exact write_list fun x member => sent_of_required required x ▸
      ofItem sound (admits_of_fits (each x member)) (coded x member)
  | optionalList item ofItem =>
    obtain ⟨_, each⟩ := listed_of_admits (admits_optionalList.mp admitted)
    obtain ⟨required, sound⟩ := coherent_list.mp (coherent_optionalList.mp sound)
    simp only [Coded] at coded
    exact write_list fun x member => sent_of_required required x ▸
      ofItem sound (admits_of_fits (each x member)) (coded x member)
  | keyed collection key item ofItem =>
    obtain ⟨keyed, sound⟩ := coherent_keyed.mp sound
    obtain ⟨_, each⟩ := listed_of_admits (admits_keyed.mp admitted)
    simp only [Coded] at coded
    refine write_keyed fun entry member => ?_
    obtain ⟨before, after, split, _⟩ := mem_lastOfEach member
    have held : entry.2 ∈ v.listed := by simp [split]
    exact sent_of_required (required_of_hasKey keyed) entry.2 ▸
      ofItem sound (admits_of_fits (each _ held)) (coded entry member)

end Layout

/-- The elements of a list that are kept where it is read under a key: the last of each. -/
def Value.keptAt (v : Value) (name : String) (key : List String) : List Value :=
  (lastOfEach (keyText key) (v.itemsSeen name)).map Prod.snd

namespace Layout
section
variable {v : Value}

theorem activity_coded
    (known : v.seen "type" = .absent ∨ activityKinds.isKnown (v.seen "type") = true) :
    activity.Coded v := by
  simp [activity, optional, required, Coded, FieldsCoded, Atom.Coded, known]

theorem presence_coded (each : ∀ x ∈ v.itemsSeen "activities", activity.Coded x) :
    presence.Coded v := by
  simpa [presence, presenceUser, optional, required, Coded, FieldsCoded, Atom.Coded,
    Value.itemsSeen] using each

theorem user_coded : user.Coded v := by
  simp [user, optional, required, Coded, FieldsCoded, Atom.Coded]

theorem privateChannel_coded (known : channelKinds.isKnown (v.seen "type") = true) :
    privateChannel.Coded v := by
  simp [privateChannel, optional, required, Coded, FieldsCoded, Atom.Coded, known, user_coded]

theorem ready_coded (presences : ∀ x ∈ v.keptAt "presences" ["user", "id"], presence.Coded x)
    (channels : ∀ x ∈ v.keptAt "private_channels" ["id"], privateChannel.Coded x) :
    ready.Coded v := by
  simp only [Value.keptAt, Value.itemsSeen, List.forall_mem_map] at presences channels
  simp only [ready, currentUser, optional, required, Coded, FieldsCoded, Atom.Coded, true_and,
    and_true]
  exact ⟨fun _ _ => trivial, presences, channels⟩

end
end Layout

namespace Ready

/-- Encoding what was decoded gives the canonical text of the payload. -/
theorem encode_decode {payload options ready : Value} {env : Environment} {clock : Clock}
    (decoded : (decode payload options env clock).outcome = .ok ready)
    (activities : ∀ presence ∈ payload.keptAt "presences" ["user", "id"],
      ∀ activity ∈ presence.itemsSeen "activities",
        activity.seen "type" = .absent ∨ ∃ code ≤ 5, activity.seen "type" = .ofNat code)
    (channels : ∀ channel ∈ payload.keptAt "private_channels" ["id"],
      ∃ code ≤ 5, channel.seen "type" = .ofNat code) :
    form.write ready = .ok (Layout.ready.canon payload) := by
  obtain ⟨_, fits, rfl⟩ := accepted_of_decode decoded
  have admitted : Layout.ready.Admits payload := Layout.admits_of_fits fits
  refine Layout.write_entity rfl admitted (Layout.ready_coded ?_ ?_)
  · refine fun presence kept => Layout.presence_coded fun activity member => ?_
    refine Layout.activity_coded ?_
    rcases activities presence kept activity member with absent | ⟨code, small, coded⟩
    · exact .inl absent
    · exact .inr (isKnown_activityKinds.mpr ⟨code, small, coded⟩)
  · intro channel kept
    obtain ⟨code, small, coded⟩ := channels channel kept
    exact Layout.privateChannel_coded (isKnown_channelKinds.mpr ⟨code, small, coded⟩)

theorem encode_decode_crowd :
    ∃ ready, (decode crowd (.record []) [] ⟨0, 3⟩).outcome = .ok ready ∧
      form.write ready = .ok (Layout.ready.canon crowd) := by
  have decoded : (decode crowd (.record []) [] ⟨0, 3⟩).outcome = .ok (Layout.ready.entity crowd) :=
    rfl
  refine ⟨_, decoded, encode_decode decoded ?_ ?_⟩
  · have kept : crowd.keptAt "presences" ["user", "id"] = [
        .record [("status", .text "dnd"), ("user", .record [("id", .text "5"), ("bot", .null)])],
        .record [("status", .text "online"), ("user", .record [("id", .text "6")]),
          ("activities", .list [.record [("name", .text "chess")]])]] := rfl
    rw [kept]
    simp [Value.itemsSeen, Value.listed, Value.seen, Value.get, Value.lent, Value.parentField,
      List.lookup_cons]
  · have kept : crowd.keptAt "private_channels" ["id"] = [
        .record [("id", .text "7"), ("type", .ofNat 1), ("recipients", .list [])]] := rfl
    rw [kept]
    simp only [List.mem_singleton, forall_eq]
    exact ⟨1, by decide, rfl⟩

/-- The text of an activity has what it inherits. -/
example : (Layout.activity.canon (.record [("name", .text "G"),
    ("__proto__", .record [("state", .text "x")])])).get "state" = .text "x" :=
  rfl

end Ready
end ChatGateway
