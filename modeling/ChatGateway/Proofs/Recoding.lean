import ChatGateway.Proofs.Changes
import ChatGateway.Proofs.Writing

/-! Kinds of later versions of the service. Whatever number within the safe limit takes the place of
the code of an activity or of a private channel, the payload is accepted as before, and nothing but
that kind changes in the entity. Numbers beyond the safe limit are refused by the check. -/
namespace ChatGateway

/-- The check takes the number for one that is exact in transit. -/
def IsSafe (q : Rat) : Prop :=
  -(Number.safeLimit : Rat) ≤ q ∧ q ≤ Number.safeLimit

/-- The kind that a code stands for: the code itself from 0 to 5, and -1 for all others. -/
def kindOf (q : Rat) : Number :=
  if ∃ code ≤ 5, q = (code : Nat) then .finite q else .ofInt (-1)

/-- A record with a kind, by its position in a payload. -/
inductive KindPlace where
  | activity
  | presenceActivity (position : Nat)
  | readyActivity (presence position : Nat)
  | readyChannel (position : Nat)

namespace KindPlace

def recordType : KindPlace → RecordType
  | .activity => .activity
  | .presenceActivity _ => .presence
  | .readyActivity .. | .readyChannel _ => .ready

/-- The payload has a record at this place. -/
def In : KindPlace → Value → Prop
  | .activity, _ => True
  | .presenceActivity i, payload => ∃ activity, (payload.itemsAt "activities")[i]? = some activity
  | .readyActivity i j, payload => ∃ presence activity,
      (payload.itemsAt "presences")[i]? = some presence ∧
      (presence.itemsAt "activities")[j]? = some activity
  | .readyChannel i, payload => ∃ channel, (payload.itemsAt "private_channels")[i]? = some channel

def recodeRecord (code : Value) (record : Value) : Value :=
  record.put "type" code

def recodePresence (i : Nat) (code : Value) : Value → Value :=
  Value.alterField "activities" (Value.alterItem i (recodeRecord code))

/-- A payload with another code at this place. -/
def recode (code : Value) : KindPlace → Value → Value
  | .activity => recodeRecord code
  | .presenceActivity i => recodePresence i code
  | .readyActivity i j => Value.alterField "presences" (Value.alterItem i (recodePresence j code))
  | .readyChannel i => Value.alterField "private_channels" (Value.alterItem i (recodeRecord code))

def rekindRecord (kind : Value) (entity : Value) : Value :=
  entity.put "kind" kind

def rekindPresence (i : Nat) (kind : Value) : Value → Value :=
  Value.alterField "activities" (Value.alterItem i (rekindRecord kind))

/-- An entity with another kind for what stands at this place of its payload. Of presences of one
user and of channels with one identifier only the last can be seen. -/
def rekind (kind payload : Value) : KindPlace → Value → Value
  | .activity => rekindRecord kind
  | .presenceActivity i => rekindPresence i kind
  | .readyActivity i j => Value.alterField "presences" (Value.alterEntry
      (Value.keptKey ["user", "id"] (payload.itemsAt "presences") i) (rekindPresence j kind))
  | .readyChannel i => Value.alterField "privateChannels" (Value.alterEntry
      (Value.keptKey ["id"] (payload.itemsAt "private_channels") i) (rekindRecord kind))

end KindPlace

namespace Layout

theorem canPut_of_passes {fields : List (String × String × Layout)} {v : Value}
    (passes : (record fields).Passes v) {wireName name : String} {leaf : Leaf} {form : TextForm}
    (shown : leaf.schema = .text form) (member : (wireName, name, required leaf) ∈ fields) :
    v.canPut = true := by
  have admitted := (passes.field name member).admitted
  have fits : (Schema.text form).Fits (v.seen wireName) := shown ▸ fits_of_admits rfl admitted
  simp only [Schema.Fits] at fits
  obtain ⟨s, found, _⟩ := fits
  exact Value.canPut_of_text found

theorem passes_ofUser_iff {inner : Layout} {v : Value} :
    (ofUser inner).Passes v ↔ inner.Passes v := by
  constructor
  · exact Passes.inner
  · intro passes
    exact ⟨by simpa only [schema] using passes.checkable, admits_ofUser.mpr passes.admitted⟩

section
variable {q : Rat}

theorem fits_number_iff : Schema.number.Fits (.number (.finite q)) ↔ IsSafe q := by
  simp [Schema.Fits, IsSafe]

theorem passes_kind_iff {kinds : Enumeration} :
    (atom (.kind kinds)).Passes (.number (.finite q)) ↔ IsSafe q := by
  constructor
  · intro passes
    exact fits_number_iff.mp passes.admitted
  · intro safe
    exact ⟨by simp [schema, Atom.schema, Schema.breaksDown], fits_number_iff.mpr safe⟩

theorem passes_optionalKind_iff {kinds : Enumeration} :
    (atom (.optionalKind kinds)).Passes (.number (.finite q)) ↔ IsSafe q := by
  constructor
  · intro passes
    exact fits_number_iff.mp (passes.admitted.resolve_left Value.noConfusion)
  · intro safe
    exact ⟨by simp [schema, Atom.schema, Schema.breaksDown], .inr (fits_number_iff.mpr safe)⟩

/-- A code is known if it is one of the six, and all six kinds are numbered alike. -/
theorem entity_kind {kinds : Enumeration} (six : kinds.known = (List.range 6).map .ofNat)
    (unknown : kinds.unknown = .ofInt (-1)) :
    (atom (.kind kinds)).entity (.number (.finite q)) = .number (kindOf q) := by
  have known : kinds.isKnown (.number (.finite q)) = true ↔ ∃ code ≤ 5, q = (code : Nat) := by
    simp only [Enumeration.isKnown_iff six, Value.ofNat, Number.ofNat, Value.number.injEq,
      Number.finite.injEq]
  simp only [entity, Atom.entity, known, kindOf, unknown]
  split <;> rfl

theorem entity_optionalKind {kinds : Enumeration} :
    (atom (.optionalKind kinds)).entity (.number (.finite q)) =
      (atom (.kind kinds)).entity (.number (.finite q)) := by
  simp [entity, Atom.entity, Value.isVacant]

end
end Layout

namespace RecordType
section
variable {r : RecordType} {call : Call} {payload entity v : Value}

/-- Where one state was decoded an expected version is known. -/
theorem configured_of_decode (decoded : (r.decode payload call).outcome = .ok entity) :
    r.Configured call := by
  rintro rfl
  have given : (Value.record call.options).field "context" =
      .ok ((Value.record call.options).get "context") := rfl
  simp only [decode, Ready.outcome_decode, given, Except.bind] at decoded
  cases version : Ready.expectedVersion (.record call.options) call.env with
  | ok known => exact ⟨known, rfl⟩
  | error failure =>
    rw [version] at decoded
    split at decoded
    · contradiction
    · split at decoded <;> contradiction

theorem decode_of_passes (decoded : (r.decode payload call).outcome = .ok entity)
    (passes : r.layout.Passes v) : (r.decode v call).outcome = .ok (r.layout.entity v) := by
  have fits := Layout.fits_of_admits r.required_layout passes.admitted
  have checkable := passes.checkable
  rw [schema_layout] at fits checkable
  exact outcome_decode_of_fits (configured_of_decode decoded) checkable fits

theorem passes_of_decode (decoded : (r.decode payload call).outcome = .ok entity) :
    r.layout.Passes payload := by
  obtain ⟨checkable, fits, _⟩ := accepted_of_decode decoded
  rw [← schema_layout] at checkable fits
  exact ⟨checkable, Layout.admits_of_fits fits⟩

end
end RecordType

namespace KindPlace
section
variable {q : Rat} {v : Value}

theorem canPut_activity (passes : Layout.activity.Passes v) : v.canPut = true :=
  @Layout.canPut_of_passes _ _ passes "name" "name" .free _ rfl (by simp)

theorem canPut_channel (passes : Layout.privateChannel.Passes v) : v.canPut = true :=
  @Layout.canPut_of_passes _ _ passes "id" "id" .snowflake _ rfl (by simp)

theorem canPut_presence (passes : Layout.presence.Passes v) : v.canPut = true :=
  @Layout.canPut_of_passes _ _ passes.inner "status" "status" .status _ rfl (by simp)

theorem canPut_ready (passes : Layout.ready.Passes v) : v.canPut = true :=
  @Layout.canPut_of_passes _ _ passes "session_id" "sessionId" .free _ rfl (by simp)

theorem passes_activity_iff (passes : Layout.activity.Passes v) :
    Layout.activity.Passes (recodeRecord (.number (.finite q)) v) ↔ IsSafe q :=
  (Layout.passes_put_iff rfl "kind" (by simp) (by decide) (canPut_activity passes) passes).trans
    (@Layout.passes_optionalKind_iff q activityKinds)

theorem entity_activity (passes : Layout.activity.Passes v) :
    Layout.activity.entity (recodeRecord (.number (.finite q)) v) =
      rekindRecord (.number (kindOf q)) (Layout.activity.entity v) := by
  have put : Layout.activity.entity (v.put "type" (.number (.finite q))) =
      (Layout.activity.entity v).put "kind"
        ((Layout.atom (.optionalKind activityKinds)).entity (.number (.finite q))) :=
    Layout.entity_put rfl (by simp) (canPut_activity passes)
  rw [Layout.entity_optionalKind, Layout.entity_kind rfl rfl] at put
  exact put

theorem passes_channel_iff (passes : Layout.privateChannel.Passes v) :
    Layout.privateChannel.Passes (recodeRecord (.number (.finite q)) v) ↔ IsSafe q :=
  (Layout.passes_put_iff rfl "kind" (by simp) (by decide) (canPut_channel passes) passes).trans
    (@Layout.passes_kind_iff q channelKinds)

theorem entity_channel (passes : Layout.privateChannel.Passes v) :
    Layout.privateChannel.entity (recodeRecord (.number (.finite q)) v) =
      rekindRecord (.number (kindOf q)) (Layout.privateChannel.entity v) := by
  have put : Layout.privateChannel.entity (v.put "type" (.number (.finite q))) =
      (Layout.privateChannel.entity v).put "kind"
        ((Layout.atom (.kind channelKinds)).entity (.number (.finite q))) :=
    Layout.entity_put rfl (by simp) (canPut_channel passes)
  rw [Layout.entity_kind rfl rfl] at put
  exact put

/-- The items of a list that a record has of its own pass the check. -/
theorem passes_items {layout item : Layout} {name : String} {i : Nat} {x : Value}
    (required : item.occurrence = .required) (shape : layout.schema = .list item.schema)
    (held : layout.Passes (v.seen name)) (there : (v.itemsAt name)[i]? = some x) :
    layout.Passes (v.get name) ∧ (v.get name).listed[i]? = some x ∧ item.Passes x := by
  rw [Value.seen_of_itemsAt there] at held
  rw [Value.itemsAt_eq_listed] at there
  refine ⟨held, there, ?_⟩
  rw [Value.eq_list_of_listed there] at held
  exact (Layout.passes_list_iff required shape).mp held x (List.mem_of_getElem? there)

theorem passes_activities (passes : Layout.presence.Passes v) :
    (Layout.optionalList .activity).Passes (v.seen "activities") :=
  passes.inner.field "activities" (by simp)

theorem passes_presences (passes : Layout.ready.Passes v) :
    (Layout.keyed "presences" ["user", "id"] .presence).Passes (v.seen "presences") :=
  passes.field "presences" (by simp)

theorem passes_channels (passes : Layout.ready.Passes v) :
    (Layout.keyed "private_channels" ["id"] .privateChannel).Passes (v.seen "private_channels") :=
  passes.field "privateChannels" (by simp)

theorem passes_presence_iff {i : Nat} {activity : Value} (passes : Layout.presence.Passes v)
    (there : (v.itemsAt "activities")[i]? = some activity) :
    Layout.presence.Passes (recodePresence i (.number (.finite q)) v) ↔ IsSafe q := by
  obtain ⟨inside, found, own⟩ := passes_items rfl rfl (passes_activities passes) there
  exact calc
    Layout.presence.Passes (recodePresence i (.number (.finite q)) v)
      ↔ (Layout.optionalList .activity).Passes
          ((v.get "activities").alterItem i (recodeRecord (.number (.finite q)))) :=
        Layout.passes_ofUser_iff.trans (Layout.passes_alterField_iff rfl "activities" (by simp)
          (by decide) (canPut_presence passes) passes.inner)
    _ ↔ Layout.activity.Passes (recodeRecord (.number (.finite q)) activity) :=
        Layout.passes_alterItem_iff rfl rfl inside found
    _ ↔ IsSafe q := passes_activity_iff own

theorem entity_presence {i : Nat} {activity : Value} (passes : Layout.presence.Passes v)
    (there : (v.itemsAt "activities")[i]? = some activity) :
    Layout.presence.entity (recodePresence i (.number (.finite q)) v) =
      rekindPresence i (.number (kindOf q)) (Layout.presence.entity v) := by
  obtain ⟨_, found, own⟩ := passes_items rfl rfl (passes_activities passes) there
  exact Layout.entity_alterField rfl (.optionalList .activity) (by simp) (canPut_presence passes)
    (Value.seen_of_itemsAt there) (Layout.entity_alterItem_list found (entity_activity own))

theorem keyText_presence {i : Nat} {code : Value} (passes : Layout.presence.Passes v) :
    (recodePresence i code v).keyText ["user", "id"] = v.keyText ["user", "id"] :=
  Value.keyText_put (canPut_presence passes) (by decide) (by decide) _

theorem keyText_channel {code : Value} (passes : Layout.privateChannel.Passes v) :
    (recodeRecord code v).keyText ["id"] = v.keyText ["id"] :=
  Value.keyText_put (canPut_channel passes) (by decide) (by decide) _

/-! ### Changed payloads -/

/-- A changed payload passes the check exactly if the new code is within the safe limit. -/
theorem passes_recode_iff {place : KindPlace} (passes : place.recordType.layout.Passes v)
    (there : place.In v) :
    place.recordType.layout.Passes (place.recode (.number (.finite q)) v) ↔ IsSafe q := by
  cases place with
  | activity => exact passes_activity_iff passes
  | presenceActivity i =>
    obtain ⟨activity, found⟩ := there
    exact passes_presence_iff passes found
  | readyActivity i j =>
    obtain ⟨presence, activity, there, inside⟩ := there
    obtain ⟨held, found, own⟩ := passes_items rfl rfl (passes_presences passes) there
    exact calc
      Layout.ready.Passes (recode (.number (.finite q)) (.readyActivity i j) v)
        ↔ (Layout.keyed "presences" ["user", "id"] .presence).Passes
            ((v.get "presences").alterItem i (recodePresence j (.number (.finite q)))) :=
          Layout.passes_alterField_iff rfl "presences" (by simp) (by decide) (canPut_ready passes)
            passes
      _ ↔ Layout.presence.Passes (recodePresence j (.number (.finite q)) presence) :=
          Layout.passes_alterItem_iff rfl rfl held found
      _ ↔ IsSafe q := passes_presence_iff own inside
  | readyChannel i =>
    obtain ⟨channel, there⟩ := there
    obtain ⟨held, found, own⟩ := passes_items rfl rfl (passes_channels passes) there
    exact calc
      Layout.ready.Passes (recode (.number (.finite q)) (.readyChannel i) v)
        ↔ (Layout.keyed "private_channels" ["id"] .privateChannel).Passes
            ((v.get "private_channels").alterItem i (recodeRecord (.number (.finite q)))) :=
          Layout.passes_alterField_iff rfl "privateChannels" (by simp) (by decide)
            (canPut_ready passes) passes
      _ ↔ Layout.privateChannel.Passes (recodeRecord (.number (.finite q)) channel) :=
          Layout.passes_alterItem_iff rfl rfl held found
      _ ↔ IsSafe q := passes_channel_iff own

/-- Nothing but the kind at this place changes in the entity. -/
theorem entity_recode {place : KindPlace} (passes : place.recordType.layout.Passes v)
    (there : place.In v) :
    place.recordType.layout.entity (place.recode (.number (.finite q)) v) =
      place.rekind (.number (kindOf q)) v (place.recordType.layout.entity v) := by
  cases place with
  | activity => exact entity_activity passes
  | presenceActivity i =>
    obtain ⟨activity, found⟩ := there
    exact entity_presence passes found
  | readyActivity i j =>
    obtain ⟨presence, _, there, inside⟩ := there
    obtain ⟨_, found, own⟩ := passes_items rfl rfl (passes_presences passes) there
    apply Layout.entity_alterField rfl (.keyed "presences" ["user", "id"] .presence) (by simp)
      (canPut_ready passes) (Value.seen_of_itemsAt there)
    rw [Value.itemsAt_eq_listed]
    exact Layout.entity_alterItem_keyed found (keyText_presence own) (entity_presence own inside)
  | readyChannel i =>
    obtain ⟨channel, there⟩ := there
    obtain ⟨_, found, own⟩ := passes_items rfl rfl (passes_channels passes) there
    apply Layout.entity_alterField rfl (.keyed "private_channels" ["id"] .privateChannel)
      (by simp) (canPut_ready passes) (Value.seen_of_itemsAt there)
    rw [Value.itemsAt_eq_listed]
    exact Layout.entity_alterItem_keyed found (keyText_channel own) (entity_channel own)

end

/-- A record with a kind inside an accepted payload is given any number as its code. The payload is
still accepted exactly if the number is within the safe limit, and then the entity is the one
before with this kind changed: to the number from 0 to 5, and to -1 for all others. -/
theorem decode_recode (place : KindPlace) (q : Rat) (call : Call) (payload entity : Value)
    (decoded : (place.recordType.decode payload call).outcome = .ok entity)
    (there : place.In payload) :
    ((∃ changed, (place.recordType.decode (place.recode (.number (.finite q)) payload)
      call).outcome = .ok changed) ↔ IsSafe q) ∧
    (IsSafe q →
      (place.recordType.decode (place.recode (.number (.finite q)) payload) call).outcome =
        .ok (place.rekind (.number (kindOf q)) payload entity)) := by
  have passes := RecordType.passes_of_decode decoded
  obtain ⟨_, _, rfl⟩ := RecordType.accepted_of_decode decoded
  have again : IsSafe q →
      (place.recordType.decode (place.recode (.number (.finite q)) payload) call).outcome =
        .ok (place.rekind (.number (kindOf q)) payload
          (place.recordType.layout.entity payload)) := by
    intro safe
    rw [← entity_recode passes there]
    exact RecordType.decode_of_passes decoded ((passes_recode_iff passes there).mpr safe)
  refine ⟨⟨?_, ?_⟩, again⟩
  · rintro ⟨changed, accepted⟩
    exact (passes_recode_iff passes there).mp (RecordType.passes_of_decode accepted)
  · intro safe
    exact ⟨_, again safe⟩

/-- Three and a half is taken for an unknown kind, and the first number beyond the safe limit is
refused. -/
theorem decode_recode_crowd : (readyActivity 1 0).In Ready.crowd ∧ ∃ entity,
    (Ready.decode Ready.crowd (.record []) [] ⟨0, 3⟩).outcome = .ok entity ∧
    (Ready.decode ((readyActivity 1 0).recode (.number (.finite (7 / 2))) Ready.crowd)
      (.record []) [] ⟨0, 3⟩).outcome =
        .ok ((readyActivity 1 0).rekind (.number (.ofInt (-1))) Ready.crowd entity) ∧
    ¬ ∃ changed, (Ready.decode ((readyActivity 1 0).recode
      (.number (.finite 9007199254740992)) Ready.crowd) (.record []) [] ⟨0, 3⟩).outcome =
        .ok changed := by
  have decoded : (Ready.decode Ready.crowd (.record []) [] ⟨0, 3⟩).outcome =
      .ok (Layout.ready.entity Ready.crowd) := rfl
  have there : (readyActivity 1 0).In Ready.crowd := ⟨_, _, rfl, rfl⟩
  have half : IsSafe (7 / 2) := by
    constructor <;> norm_num [Number.safeLimit]
  have large : ¬ IsSafe 9007199254740992 := fun safe => by
    have below := safe.2
    norm_num [Number.safeLimit] at below
  have unknown : kindOf (7 / 2) = .ofInt (-1) := by decide +kernel
  have recoded (q : Rat) :=
    decode_recode (.readyActivity 1 0) q ⟨none, [], [], ⟨0, 3⟩⟩ Ready.crowd _ decoded there
  exact ⟨there, _, decoded, unknown ▸ (recoded _).2 half, fun accepted =>
    large ((recoded _).1.mp accepted)⟩

end KindPlace
end ChatGateway
