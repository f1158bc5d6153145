import ChatGateway.Endpoint
import ChatGateway.Proofs.Copies
import ChatGateway.Ready

/-! Layouts of records. A layout says of each field what it holds and under which names; the form
and the schema of a record both follow from it, and so do the texts and entities that belong to it.
The nine records and their layouts are tied by `rfl`. -/
namespace ChatGateway

def Value.follow (path : List String) (v : Value) : Value :=
  path.foldl Value.get v

/-- What is at the end of a path as the checker sees it. -/
def Value.reach (path : List String) (v : Value) : Value :=
  path.foldl Value.seen v

/-- The key that an item of a list has on the wire. -/
def Value.keyText (path : List String) (v : Value) : String :=
  (v.reach path).text?.getD ""

/-- The items of a list; all else has none. -/
def Value.listed : Value → List Value
  | .list items => items
  | _ => []

/-- The items that are seen under a name. -/
def Value.itemsSeen (v : Value) (name : String) : List Value :=
  (v.seen name).listed

/-- Where no record has the field that makes copies inherit, the checker sees what stands at the end
of a path and nothing else. -/
theorem Value.reach_of_plain {v : Value} (given : v.IsPayload) (plain : ¬ v.NamesParent)
    (path : List String) : v.reach path = v.follow path := by
  induction path generalizing v with
  | nil => rfl
  | cons name rest ih =>
    rw [reach, follow, List.foldl_cons, List.foldl_cons, seen_of_plain plain]
    have inner : ¬ (v.get name).NamesParent := by
      rcases given with rfl | json
      · exact not_namesParent_absent
      · cases json with
        | record => exact not_namesParent_get plain name
        | _ => exact not_namesParent_absent
    exact ih (isPayload_get given name) inner

/-- A simple value, or a list of two. -/
inductive Leaf where
  | free
  | snowflake
  | uri
  | status
  | boolean
  | count
  | pair

def Leaf.schema : Leaf → Schema
  | .free => .free
  | .snowflake => .snowflake
  | .uri => .text .uri
  | .status => .status
  | .boolean => .boolean
  | .count => .count
  | .pair => .pair

/-- What a field without named parts holds. -/
inductive Atom where
  | required (leaf : Leaf)
  | optional (leaf : Leaf)
  /-- A truth value that is false where it is missing. -/
  | switch
  | discriminator
  | optionalDiscriminator
  | flags (table : FlagTable)
  | optionalFlags (table : FlagTable)
  | kind (kinds : Enumeration)
  | optionalKind (kinds : Enumeration)
  | buttons
  | leaves (leaf : Leaf)
  /-- A list that is empty where it is missing. -/
  | optionalLeaves (leaf : Leaf)

namespace Atom

def form : Atom → Form
  | .required _ => .plain
  | .optional _ => .optional
  | .switch => .orElse .plain (.bool false)
  | .discriminator => Discriminator.form "discriminator"
  | .optionalDiscriminator => Discriminator.optionalForm "discriminator"
  | .flags table => table.form
  | .optionalFlags table => table.optionalForm
  | .kind kinds => kinds.form "type"
  | .optionalKind kinds => kinds.optionalForm "type"
  | .buttons => ActivityButton.form "buttons"
  | .leaves _ => .elements
  | .optionalLeaves _ => .orElse .elements (.list [])

def occurrence : Atom → Occurrence
  | .required _ | .discriminator | .flags _ | .kind _ | .leaves _ => .required
  | .switch | .optionalKind _ | .optionalLeaves _ => .optional
  | .optional _ | .optionalDiscriminator | .optionalFlags _ | .buttons => .nullable

def schema : Atom → Schema
  | .required leaf | .optional leaf => leaf.schema
  | .switch => .boolean
  | .discriminator | .optionalDiscriminator => .discriminator
  | .flags _ | .optionalFlags _ => .count
  | .kind _ | .optionalKind _ => .number
  | .buttons => .list (.either .free .activityButton)
  | .leaves leaf | .optionalLeaves leaf => .list leaf.schema

/-- The codes of kinds are numbers that the schema lets pass. -/
def coherent : Atom → Bool
  | .kind kinds | .optionalKind kinds =>
    kinds.known.all fun code => (checkNumber (.number code)).isEmpty
  | _ => true

end Atom

/-- What a field of a record holds, or a record as a whole. Fields of a record are listed under
their names on the wire and their own. -/
inductive Layout where
  | atom (atom : Atom)
  | record (fields : List (String × String × Layout))
  /-- A record that may be missing. -/
  | part (fields : List (String × String × Layout))
  /-- A record about a user, who is named in the log while it is read. -/
  | ofUser (inner : Layout)
  | list (item : Layout)
  /-- A list that is empty where it is missing. -/
  | optionalList (item : Layout)
  /-- A map under the texts at the end of a path, empty where it is missing. -/
  | keyed (collection : String) (key : List String) (item : Layout)

namespace Layout

/-- A property of all layouts follows if it passes from the parts of a layout to the whole. -/
@[elab_as_elim, induction_eliminator]
theorem induct {motive : Layout → Prop} (atom : ∀ atom, motive (.atom atom))
    (record : ∀ fields, (∀ field ∈ fields, motive field.2.2) → motive (.record fields))
    (part : ∀ fields, (∀ field ∈ fields, motive field.2.2) → motive (.part fields))
    (ofUser : ∀ inner, motive inner → motive (.ofUser inner))
    (list : ∀ item, motive item → motive (.list item))
    (optionalList : ∀ item, motive item → motive (.optionalList item))
    (keyed : ∀ collection key item, motive item → motive (.keyed collection key item))
    (layout : Layout) : motive layout := by
  refine @Layout.rec motive (fun fields => ∀ field ∈ fields, motive field.2.2)
    (fun field => motive field.2.2) (fun field => motive field.2)
    atom record part ofUser list optionalList keyed ?_ ?_ ?_ ?_ layout
  · intro field member
    contradiction
  · intro head rest ofHead ofRest field member
    rcases List.mem_cons.mp member with rfl | later
    · exact ofHead
    · exact ofRest field later
  · intro wireName rest ofRest
    exact ofRest
  · intro name inner ofInner
    exact ofInner

mutual

def form : Layout → Form
  | .atom a => a.form
  | .record fields => .record (formFields fields)
  | .part fields => .part (formFields fields)
  | .ofUser inner => {
      read := fun wire context => do
        let id ← Traced.ofExcept (do (← wire.field "user").field "id")
        inner.form.read wire (some (Context.extend context [("userId", id)]))
      write := inner.form.write }
  | .list item => .list item.form
  | .optionalList item => .orElse (.list item.form) (.list [])
  | .keyed collection key item => Keyed.form item.form (Value.follow key) collection

def formFields : List (String × String × Layout) → List Field
  | [] => []
  | (wireName, name, layout) :: rest => ⟨wireName, name, layout.form⟩ :: formFields rest

end

def occurrence : Layout → Occurrence
  | .atom a => a.occurrence
  | .record _ | .list _ => .required
  | .part _ => .nullable
  | .ofUser inner => inner.occurrence
  | .optionalList _ | .keyed .. => .optional

mutual

def schema : Layout → Schema
  | .atom a => a.schema
  | .record fields | .part fields => .record (shapeFields fields)
  | .ofUser inner => inner.schema
  | .list item | .optionalList item | .keyed _ _ item => .list item.schema

def shapeFields : List (String × String × Layout) → List (String × Occurrence × Schema)
  | [] => []
  | (wireName, _, layout) :: rest =>
    (wireName, layout.occurrence, layout.schema) :: shapeFields rest

end

mutual

/-- At the end of the path there is an identifier, under the same names on the wire and off it. -/
def hasKey : Layout → List String → Bool
  | .atom (.required .snowflake), [] => true
  | .record fields, name :: rest => fieldsHaveKey fields name rest
  | .ofUser inner, path => inner.hasKey path
  | _, _ => false

def fieldsHaveKey : List (String × String × Layout) → String → List String → Bool
  | [], _, _ => false
  | (wireName, name, layout) :: rest, first, path =>
    (wireName == first && name == first && layout.hasKey path) || fieldsHaveKey rest first path

end

/-- No two fields share a name, neither on the wire nor off it, and none has the name that makes
copies inherit. -/
def soundNames (fields : List (String × String × Layout)) : Bool :=
  decide (fields.map (·.1)).Nodup && decide (fields.map (·.2.1)).Nodup &&
    decide (Value.parentField ∉ fields.map (·.1))

mutual

/-- Names are sound in every record, items of lists are required, and keys can be found wherever
they are needed. -/
def coherent : Layout → Bool
  | .atom a => a.coherent
  | .record fields | .part fields => soundNames fields && fieldsCoherent fields
  | .ofUser inner => inner.hasKey ["user", "id"] && inner.coherent
  | .list item | .optionalList item => decide (item.occurrence = .required) && item.coherent
  | .keyed _ key item => item.hasKey key && item.coherent

def fieldsCoherent : List (String × String × Layout) → Bool
  | [] => true
  | (_, _, layout) :: rest => layout.coherent && fieldsCoherent rest

end

def required (leaf : Leaf) : Layout := .atom (.required leaf)

def optional (leaf : Leaf) : Layout := .atom (.optional leaf)

def activity : Layout := .record [
  ("application_id", "applicationId", optional .snowflake),
  ("assets", "assets", .part [
    ("large_image", "largeImage", optional .free),
    ("large_text", "largeText", optional .free),
    ("small_image", "smallImage", optional .free),
    ("small_text", "smallText", optional .free)]),
  ("details", "details", optional .free),
  ("flags", "flags", .atom (.optionalFlags FlagTable.activity)),
  ("instance", "instance", optional .boolean),
  ("type", "kind", .atom (.optionalKind activityKinds)),
  ("name", "name", required .free),
  ("party", "party", .part [
    ("id", "id", optional .free),
    ("size", "size", optional .pair)]),
  ("secrets", "secrets", .part [
    ("join", "join", optional .free),
    ("match", "match", optional .free),
    ("spectate", "spectate", optional .free)]),
  ("state", "state", optional .free),
  ("emoji", "emoji", .part [
    ("name", "name", required .free),
    ("id", "id", optional .snowflake),
    ("animated", "animated", optional .boolean)]),
  ("timestamps", "timestamps", .part [
    ("start", "start", optional .count),
    ("end", "end", optional .count)]),
  ("sync_id", "syncId", optional .free),
  ("session_id", "sessionId", optional .free),
  ("url", "url", optional .uri),
  ("buttons", "buttons", .atom .buttons)]

def user : Layout := .record [
  ("id", "id", required .snowflake),
  ("username", "name", required .free),
  ("discriminator", "discriminator", .atom .discriminator),
  ("bot", "bot", .atom .switch),
  ("avatar", "avatar", optional .free),
  ("public_flags", "publicFlags", .atom (.optionalFlags FlagTable.userPublic)),
  ("banner", "banner", optional .free),
  ("accent_color", "accentColor", optional .count),
  ("member", "member", .part [
    ("nick", "nick", optional .free),
    ("roles", "roles", .atom (.leaves .snowflake)),
    ("joined_at", "joinedAt", optional .free),
    ("deaf", "deaf", required .boolean),
    ("mute", "mute", required .boolean)])]

def currentUser : Layout := .record [
  ("id", "id", required .snowflake),
  ("username", "name", required .free),
  ("discriminator", "discriminator", .atom .discriminator),
  ("bot", "bot", .atom .switch),
  ("avatar", "avatar", optional .free),
  ("email", "email", optional .free),
  ("mfa_enabled", "mfaEnabled", .atom .switch),
  ("verified", "verified", optional .boolean),
  ("public_flags", "publicFlags", .atom (.optionalFlags FlagTable.userPublic)),
  ("banner", "banner", optional .free),
  ("accent_color", "accentColor", optional .count)]

def presenceUser : Layout := .record [
  ("id", "id", required .snowflake),
  ("avatar", "avatar", optional .free),
  ("bot", "bot", optional .boolean),
  ("discriminator", "discriminator", .atom .optionalDiscriminator),
  ("email", "email", optional .free),
  ("mfa_enabled", "mfaEnabled", optional .boolean),
  ("username", "name", optional .free),
  ("verified", "verified", optional .boolean),
  ("public_flags", "publicFlags", .atom (.optionalFlags FlagTable.userPublic))]

def presence : Layout := .ofUser (.record [
  ("activities", "activities", .optionalList activity),
  ("client_status", "clientStatus", .part [
    ("desktop", "desktop", optional .status),
    ("mobile", "mobile", optional .status),
    ("web", "web", optional .status)]),
  ("guild_id", "guildId", optional .snowflake),
  ("status", "status", required .status),
  ("user", "user", presenceUser)])

def privateChannel : Layout := .record [
  ("id", "id", required .snowflake),
  ("type", "kind", .atom (.kind channelKinds)),
  ("last_message_id", "lastMessageId", optional .snowflake),
  ("last_pin_timestamp", "lastPinTimestamp", optional .free),
  ("recipients", "recipients", .list user)]

def ready : Layout := .record [
  ("application", "application", .record [
    ("id", "id", required .snowflake),
    ("flags", "flags", .atom (.flags FlagTable.application))]),
  ("guilds", "guilds", .list (.record [
    ("id", "id", required .snowflake),
    ("unavailable", "unavailable", .atom .switch)])),
  ("presences", "presences", .keyed "presences" ["user", "id"] presence),
  ("private_channels", "privateChannels", .keyed "private_channels" ["id"] privateChannel),
  ("session_id", "sessionId", required .free),
  ("shard", "shard", optional .pair),
  ("_trace", "trace", .atom (.optionalLeaves .free)),
  ("user", "user", currentUser),
  ("v", "version", required .count)]

def gateway : Layout := .record [("url", "url", required .free)]

def sessionStartLimit : Layout := .record [
  ("remaining", "remaining", required .count),
  ("reset_after", "resetAfter", required .count),
  ("total", "total", required .count),
  ("max_concurrency", "maxConcurrency", required .count)]

def botGateway : Layout := .record [
  ("session_start_limit", "sessionStartLimit", sessionStartLimit),
  ("shards", "shards", required .count),
  ("url", "url", required .free)]

theorem fieldsCoherent_iff {fields : List (String × String × Layout)} :
    fieldsCoherent fields = true ↔ ∀ field ∈ fields, field.2.2.coherent = true := by
  induction fields with
  | nil => simp [fieldsCoherent]
  | cons head rest ih => simp [fieldsCoherent, ih]

theorem coherent_record {fields : List (String × String × Layout)} :
    (record fields).coherent = true ↔
      soundNames fields = true ∧ ∀ field ∈ fields, field.2.2.coherent = true := by
  simp only [coherent, Bool.and_eq_true, fieldsCoherent_iff]

theorem coherent_part {fields : List (String × String × Layout)} :
    (part fields).coherent = true ↔ (record fields).coherent = true := by
  simp only [coherent]

theorem coherent_ofUser {inner : Layout} : (ofUser inner).coherent = true ↔
    inner.hasKey ["user", "id"] = true ∧ inner.coherent = true := by
  simp only [coherent, Bool.and_eq_true]

theorem coherent_list {item : Layout} : (list item).coherent = true ↔
    item.occurrence = .required ∧ item.coherent = true := by
  simp only [coherent, Bool.and_eq_true, decide_eq_true_eq]

theorem coherent_optionalList {item : Layout} :
    (optionalList item).coherent = true ↔ (list item).coherent = true := by
  simp only [coherent]

theorem coherent_keyed {collection : String} {key : List String} {item : Layout} :
    (keyed collection key item).coherent = true ↔
      item.hasKey key = true ∧ item.coherent = true := by
  simp only [coherent, Bool.and_eq_true]

theorem soundNames_iff {fields : List (String × String × Layout)} :
    soundNames fields = true ↔ (fields.map (·.1)).Nodup ∧ (fields.map (·.2.1)).Nodup ∧
      Value.parentField ∉ fields.map (·.1) := by
  rw [soundNames, Bool.and_eq_true, Bool.and_eq_true, decide_eq_true_eq, decide_eq_true_eq,
    decide_eq_true_eq, and_assoc]

theorem mem_of_fieldsHaveKey {fields : List (String × String × Layout)} {name : String}
    {path : List String} (keyed : fieldsHaveKey fields name path = true) :
    ∃ layout, (name, name, layout) ∈ fields ∧ layout.hasKey path = true := by
  induction fields with
  | nil => contradiction
  | cons head rest ih =>
    obtain ⟨wireName, ownName, layout⟩ := head
    simp only [fieldsHaveKey, Bool.or_eq_true, Bool.and_eq_true, beq_iff_eq] at keyed
    rcases keyed with ⟨⟨rfl, rfl⟩, inside⟩ | later
    · exact ⟨layout, List.mem_cons_self, inside⟩
    · obtain ⟨layout, member, inside⟩ := ih later
      exact ⟨layout, List.mem_cons_of_mem _ member, inside⟩

/-- What leads to a key is there. -/
theorem required_of_hasKey {layout : Layout} {path : List String}
    (keyed : layout.hasKey path = true) : layout.occurrence = .required := by
  induction layout generalizing path with
  | ofUser inner ofInner => exact ofInner (by simpa only [hasKey] using keyed)
  | atom a =>
    cases a with
    | required leaf => rfl
    | _ => simp [hasKey] at keyed
  | record fields _ => rfl
  | _ => simp [hasKey] at keyed

theorem shapeFields_eq_map {fields : List (String × String × Layout)} :
    shapeFields fields = fields.map fun field =>
      (field.1, field.2.2.occurrence, field.2.2.schema) := by
  induction fields with
  | nil => rfl
  | cons head rest ih => simp [shapeFields, ih]

/-- The values that a field of this layout may hold on the wire. -/
def Admits (layout : Layout) (v : Value) : Prop :=
  Schema.Admits layout.occurrence layout.schema v

theorem fieldsFit_shapeFields {fields : List (String × String × Layout)} {v : Value} :
    Schema.FieldsFit (shapeFields fields) v ↔
      ∀ field ∈ fields, field.2.2.Admits (v.seen field.1) := by
  rw [Schema.fieldsFit_iff, shapeFields_eq_map, List.forall_mem_map]
  rfl

theorem admits_record {fields : List (String × String × Layout)} {v : Value} :
    (record fields).Admits v ↔
      v.isRecord = true ∧ ∀ field ∈ fields, field.2.2.Admits (v.seen field.1) := by
  simp only [Admits, Schema.Admits, occurrence, schema, Schema.Fits, fieldsFit_shapeFields]

theorem admits_part {fields : List (String × String × Layout)} {v : Value} :
    (part fields).Admits v ↔ v.isVacant = true ∨ (record fields).Admits v := by
  simp only [Admits, Schema.Admits, occurrence, schema]

theorem admits_ofUser {inner : Layout} {v : Value} : (ofUser inner).Admits v ↔ inner.Admits v := by
  simp only [Admits, occurrence, schema]

theorem admits_list {item : Layout} {v : Value} :
    (list item).Admits v ↔ ∃ items, v = .list items ∧ ∀ x ∈ items, item.schema.Fits x := by
  simp only [Admits, Schema.Admits, occurrence, schema, Schema.Fits]

theorem admits_optionalList {item : Layout} {v : Value} :
    (optionalList item).Admits v ↔ v = .absent ∨ (list item).Admits v := by
  simp only [Admits, Schema.Admits, occurrence, schema]

theorem admits_keyed {collection : String} {key : List String} {item : Layout} {v : Value} :
    (keyed collection key item).Admits v ↔ v = .absent ∨ (list item).Admits v := by
  simp only [Admits, Schema.Admits, occurrence, schema]

/-- A list that may be missing is one without items then. -/
theorem listed_of_admits {item : Layout} {v : Value}
    (admitted : v = .absent ∨ (list item).Admits v) :
    v.orElse (.list []) = .list v.listed ∧ ∀ x ∈ v.listed, item.schema.Fits x := by
  rcases admitted with rfl | admitted
  · exact ⟨rfl, by simp [Value.listed]⟩
  · obtain ⟨items, rfl, each⟩ := admits_list.mp admitted
    exact ⟨rfl, each⟩

theorem admits_of_fits {layout : Layout} {v : Value} (fits : layout.schema.Fits v) :
    layout.Admits v :=
  Schema.admits_of_fits fits

theorem fits_of_admits {layout : Layout} {v : Value} (required : layout.occurrence = .required)
    (admitted : layout.Admits v) : layout.schema.Fits v := by
  simpa only [Admits, Schema.Admits, required] using admitted

end Layout
end ChatGateway
