import ChatGateway.Proofs.Decoding
import ChatGateway.Proofs.Refusals

/-! The slots of a record: its kinds and discriminators, in the order in which they are written.
Writing a well-typed entity fails exactly if one of them has no wire form, and names the first of
those. -/
namespace ChatGateway

/-- A kind or a discriminator, with the place where it stands and what it is. -/
inductive Slot where
  | activityKind (value : Value)
  | channelKind (value : Value)
  | discriminator (value : Value)

namespace Slot

/-- There is a wire form for the numbers from 0 to 5 or 9999 and for nothing else. -/
def Writable : Slot → Prop
  | .activityKind v | .channelKind v => ∃ code ≤ 5, v = .ofNat code
  | .discriminator v => ∃ n ≤ 9999, v = .ofNat n

/-- What stands on the wire is a code from 0 to 5 or a text of four digits. -/
def Written : Slot → Prop
  | .activityKind v | .channelKind v => ∃ code ≤ 5, v = .ofNat code
  | .discriminator v => ∃ s, v = .text s ∧ s.length = 4 ∧ isDigits 4 s = true

/-- The error about a slot without a wire form. It names the field and shows what is there. -/
def refusal : Slot → EncodeError
  | .activityKind v =>
    ⟨"type", "ActivityType value " ++ v.inSentence?.getD "" ++ " has no wire code"⟩
  | .channelKind v =>
    ⟨"type", "ChannelType value " ++ v.inSentence?.getD "" ++ " has no wire code"⟩
  | .discriminator v =>
    ⟨"discriminator", "Discriminator " ++ v.inSentence?.getD "" ++ " is outside 0-9999"⟩

def refusals : Slot → List EncodeError
  | .activityKind v => activityKinds.refusals "type" v
  | .channelKind v => channelKinds.refusals "type" v
  | .discriminator v => Discriminator.refusals "discriminator" v

/-- The slot on the wire. A code stays as it is. -/
def sent : Slot → Slot
  | .discriminator v => .discriminator (Discriminator.sent v)
  | slot => slot

end Slot

namespace Slot

theorem refusals_of_writable {slot : Slot} (writable : slot.Writable) : slot.refusals = [] := by
  cases slot with
  | activityKind v => exact if_pos (isKnown_activityKinds.mpr writable)
  | channelKind v => exact if_pos (isKnown_channelKinds.mpr writable)
  | discriminator v =>
    obtain ⟨n, small, rfl⟩ := writable
    rw [refusals, Discriminator.refusals, Discriminator.small?_ofNat small]

theorem refusals_of_not_writable {slot : Slot} (unwritable : ¬ slot.Writable) :
    slot.refusals = [slot.refusal] := by
  cases slot with
  | activityKind v => exact if_neg fun known => unwritable (isKnown_activityKinds.mp known)
  | channelKind v => exact if_neg fun known => unwritable (isKnown_channelKinds.mp known)
  | discriminator v =>
    have none : Discriminator.small? v = none := by
      refine Option.eq_none_iff_forall_ne_some.mpr fun n found => unwritable ?_
      exact ⟨n, Discriminator.eq_ofNat_of_small? found⟩
    rw [refusals, Discriminator.refusals, none]
    rfl

theorem refusals_eq_nil_iff {slot : Slot} : slot.refusals = [] ↔ slot.Writable := by
  constructor
  · intro nothing
    by_contra unwritable
    rw [refusals_of_not_writable unwritable] at nothing
    contradiction
  · exact refusals_of_writable

theorem written_of_writable {slot : Slot} (writable : slot.Writable) : slot.sent.Written := by
  cases slot with
  | activityKind v | channelKind v => exact writable
  | discriminator v =>
    obtain ⟨n, small, rfl⟩ := writable
    refine ⟨Discriminator.fourDigits n, ?_, ?_, Discriminator.isDigits_fourDigits n⟩
    · rw [Discriminator.sent, Discriminator.small?_ofNat small]
    · rw [← String.length_toList, Discriminator.toList_fourDigits]
      rfl

end Slot

/-- The names of the fields that are called differently in an entity and on the wire. -/
structure Names where
  kind : String
  privateChannels : String

def Names.own : Names := ⟨"kind", "privateChannels"⟩

def Names.wire : Names := ⟨"type", "private_channels"⟩

def Value.contentsAt (v : Value) (name : String) : List Value :=
  (v.get name).contents

namespace Slot

def ofActivity (names : Names) (activity : Value) : List Slot :=
  [.activityKind (activity.get names.kind)]

def ofUser (user : Value) : List Slot :=
  [.discriminator (user.get "discriminator")]

/-- A discriminator that is missing is no slot. -/
def ofPresenceUser (user : Value) : List Slot :=
  match user.get "discriminator" with
  | .absent => []
  | v => [.discriminator v]

def ofPresence (names : Names) (presence : Value) : List Slot :=
  (presence.contentsAt "activities").flatMap (ofActivity names) ++
    ofPresenceUser (presence.get "user")

def ofChannel (names : Names) (channel : Value) : List Slot :=
  .channelKind (channel.get names.kind) :: (channel.contentsAt "recipients").flatMap ofUser

def ofReady (names : Names) (ready : Value) : List Slot :=
  (ready.contentsAt "presences").flatMap (ofPresence names) ++
    (ready.contentsAt names.privateChannels).flatMap (ofChannel names) ++
    ofUser (ready.get "user")

end Slot

/-- The slots of a record, be it an entity or what is written for it. -/
def RecordType.slots (names : Names) : RecordType → Value → List Slot
  | activity => Slot.ofActivity names
  | user | currentUser => Slot.ofUser
  | presenceUser => Slot.ofPresenceUser
  | presence => Slot.ofPresence names
  | ready => Slot.ofReady names
  | gateway | botGateway | sessionStartLimit => fun _ => []

namespace Layout
section
variable (v : Value)

theorem refusals_activity :
    activity.refusals v = (Slot.ofActivity .own v).flatMap Slot.refusals := by
  simp [activity, optional, required, refusals, fieldRefusals, Atom.refusals, Slot.ofActivity,
    Slot.refusals, Names.own]

theorem refusals_user : user.refusals v = (Slot.ofUser v).flatMap Slot.refusals := by
  simp [user, optional, required, refusals, fieldRefusals, Atom.refusals, Slot.ofUser,
    Slot.refusals]

theorem refusals_currentUser : currentUser.refusals v = (Slot.ofUser v).flatMap Slot.refusals := by
  simp [currentUser, optional, required, refusals, fieldRefusals, Atom.refusals, Slot.ofUser,
    Slot.refusals]

theorem refusals_presenceUser :
    presenceUser.refusals v = (Slot.ofPresenceUser v).flatMap Slot.refusals := by
  cases held : v.get "discriminator" <;>
    simp [presenceUser, optional, required, refusals, fieldRefusals, Atom.refusals,
      Slot.ofPresenceUser, Slot.refusals, held]

theorem refusals_presence :
    presence.refusals v = (Slot.ofPresence .own v).flatMap Slot.refusals := by
  simp [presence, optional, required, refusals, fieldRefusals, Atom.refusals, Slot.ofPresence,
    refusals_activity, refusals_presenceUser, List.flatMap_assoc, Value.contentsAt]

theorem refusals_privateChannel :
    privateChannel.refusals v = (Slot.ofChannel .own v).flatMap Slot.refusals := by
  simp [privateChannel, optional, required, refusals, fieldRefusals, Atom.refusals, Slot.ofChannel,
    Slot.refusals, refusals_user, List.flatMap_assoc, Value.contentsAt, Names.own]

theorem refusals_ready : ready.refusals v = (Slot.ofReady .own v).flatMap Slot.refusals := by
  simp [ready, optional, required, refusals, fieldRefusals, Atom.refusals, Slot.ofReady,
    refusals_presence, refusals_privateChannel, refusals_currentUser, List.flatMap_assoc,
    Value.contentsAt, Names.own]

end
end Layout

/-! ### Slots on the wire -/

namespace Layout
section
variable (v : Value)

theorem slots_sent_activity :
    Slot.ofActivity .wire (activity.sent v) = (Slot.ofActivity .own v).map Slot.sent := by
  have kind : (activity.sent v).get "type" = v.get "kind" :=
    @get_sent _ ("type", "kind", .atom (.optionalKind activityKinds)) rfl (by simp) v
  simp [Slot.ofActivity, Names.wire, Names.own, kind, Slot.sent]

theorem slots_sent_discriminator {fields : List (String × String × Layout)}
    (distinct : soundNames fields = true)
    (member : ("discriminator", "discriminator", .atom .discriminator) ∈ fields) :
    Slot.ofUser ((record fields).sent v) = (Slot.ofUser v).map Slot.sent := by
  have digits : ((record fields).sent v).get "discriminator" =
      Discriminator.sent (v.get "discriminator") := get_sent distinct member v
  simp [Slot.ofUser, digits, Slot.sent]

theorem slots_sent_user : Slot.ofUser (user.sent v) = (Slot.ofUser v).map Slot.sent :=
  slots_sent_discriminator v rfl (by simp)

theorem slots_sent_currentUser :
    Slot.ofUser (currentUser.sent v) = (Slot.ofUser v).map Slot.sent :=
  slots_sent_discriminator v rfl (by simp)

theorem slots_sent_presenceUser :
    Slot.ofPresenceUser (presenceUser.sent v) = (Slot.ofPresenceUser v).map Slot.sent := by
  have digits : (presenceUser.sent v).get "discriminator" =
      Discriminator.sent (v.get "discriminator") :=
    @get_sent _ ("discriminator", "discriminator", .atom .optionalDiscriminator) rfl (by simp) v
  rw [Slot.ofPresenceUser, Slot.ofPresenceUser, digits]
  by_cases missing : v.get "discriminator" = .absent
  · rw [missing]
    rfl
  · have there : Discriminator.sent (v.get "discriminator") ≠ .absent := by
      unfold Discriminator.sent
      split
      · exact Value.noConfusion
      · exact missing
    split <;> simp_all [Slot.sent]

theorem slots_sent_list {item : Layout} {ofWire ofOwn : Value → List Slot}
    (each : ∀ x, ofWire (item.sent x) = (ofOwn x).map Slot.sent) (items : List Value) :
    (Value.list (items.map item.sent)).contents.flatMap ofWire =
      (items.flatMap ofOwn).map Slot.sent := by
  rw [Value.contents, List.flatMap_map, List.map_flatMap]
  exact List.flatMap_congr fun x _ => each x

theorem slots_sent_presence :
    Slot.ofPresence .wire (presence.sent v) = (Slot.ofPresence .own v).map Slot.sent := by
  have activities : (presence.sent v).get "activities" =
      .list ((v.get "activities").contents.map activity.sent) :=
    @get_sent _ ("activities", "activities", .optionalList activity) rfl (by simp) v
  have user : (presence.sent v).get "user" = presenceUser.sent (v.get "user") :=
    @get_sent _ ("user", "user", presenceUser) rfl (by simp) v
  rw [Slot.ofPresence, Slot.ofPresence, Value.contentsAt, Value.contentsAt, activities, user,
    slots_sent_list slots_sent_activity, slots_sent_presenceUser, List.map_append]

theorem slots_sent_privateChannel :
    Slot.ofChannel .wire (privateChannel.sent v) = (Slot.ofChannel .own v).map Slot.sent := by
  have kind : (privateChannel.sent v).get "type" = v.get "kind" :=
    @get_sent _ ("type", "kind", .atom (.kind channelKinds)) rfl (by simp) v
  have recipients : (privateChannel.sent v).get "recipients" =
      .list ((v.get "recipients").contents.map user.sent) :=
    @get_sent _ ("recipients", "recipients", .list user) rfl (by simp) v
  simp only [Slot.ofChannel, Names.wire, Names.own, kind, Value.contentsAt, recipients,
    slots_sent_list slots_sent_user, List.map_cons, Slot.sent]

theorem slots_sent_ready :
    Slot.ofReady .wire (ready.sent v) = (Slot.ofReady .own v).map Slot.sent := by
  have presences : (ready.sent v).get "presences" =
      .list ((v.get "presences").contents.map presence.sent) :=
    @get_sent _ ("presences", "presences", .keyed "presences" ["user", "id"] presence) rfl
      (by simp) v
  have channels : (ready.sent v).get "private_channels" =
      .list ((v.get "privateChannels").contents.map privateChannel.sent) :=
    @get_sent _ ("private_channels", "privateChannels",
      .keyed "private_channels" ["id"] privateChannel) rfl (by simp) v
  have user : (ready.sent v).get "user" = currentUser.sent (v.get "user") :=
    @get_sent _ ("user", "user", currentUser) rfl (by simp) v
  have ownChannels : Names.own.privateChannels = "privateChannels" := rfl
  have wireChannels : Names.wire.privateChannels = "private_channels" := rfl
  simp only [Slot.ofReady, Value.contentsAt, ownChannels, wireChannels, presences, channels, user,
    slots_sent_list slots_sent_presence, slots_sent_list slots_sent_privateChannel,
    slots_sent_currentUser, List.map_append]

end
end Layout

namespace RecordType

theorem refusals_eq_slots (r : RecordType) (v : Value) :
    r.layout.refusals v = (r.slots .own v).flatMap Slot.refusals := by
  cases r with
  | activity => exact Layout.refusals_activity v
  | user => exact Layout.refusals_user v
  | currentUser => exact Layout.refusals_currentUser v
  | presenceUser => exact Layout.refusals_presenceUser v
  | presence => exact Layout.refusals_presence v
  | ready => exact Layout.refusals_ready v
  | gateway | botGateway | sessionStartLimit => rfl

theorem slots_sent (r : RecordType) (v : Value) :
    r.slots .wire (r.layout.sent v) = (r.slots .own v).map Slot.sent := by
  cases r with
  | activity => exact Layout.slots_sent_activity v
  | user => exact Layout.slots_sent_user v
  | currentUser => exact Layout.slots_sent_currentUser v
  | presenceUser => exact Layout.slots_sent_presenceUser v
  | presence => exact Layout.slots_sent_presence v
  | ready => exact Layout.slots_sent_ready v
  | gateway | botGateway | sessionStartLimit => rfl

/-- Writing a well-typed entity fails exactly if one of its slots has no wire form, and then it
fails with the first of those. What is written otherwise has the same slots in the same order, each
with a code from 0 to 5 or with four digits. -/
theorem write_slots (r : RecordType) (entity : Value) (typed : r.layout.Typed entity) :
    ((∃ failure, r.form.write entity = .error failure) ↔
      ∃ slot ∈ r.slots .own entity, ¬ slot.Writable) ∧
    (∀ before slot after, r.slots .own entity = before ++ slot :: after →
      (∀ earlier ∈ before, earlier.Writable) → ¬ slot.Writable →
      r.form.write entity = .error (.encode slot.refusal)) ∧
    ∀ wire, r.form.write entity = .ok wire →
      r.slots .wire wire = (r.slots .own entity).map Slot.sent ∧
      ∀ slot ∈ r.slots .wire wire, slot.Written := by
  have write : r.form.write entity =
      settled ((r.slots .own entity).flatMap Slot.refusals) (r.layout.sent entity) := by
    rw [← form_layout, ← refusals_eq_slots]
    exact Layout.write_typed typed
  have clean : (r.slots .own entity).flatMap Slot.refusals = [] ↔
      ∀ slot ∈ r.slots .own entity, slot.Writable := by
    simp only [List.flatMap_eq_nil_iff, Slot.refusals_eq_nil_iff]
  refine ⟨?_, ?_, ?_⟩
  · rw [write, settled_fails_iff, ne_eq, clean]
    simp only [not_forall, exists_prop]
  · intro before slot after split earlier unwritable
    -- Nothing is refused before the slot, so that its refusal comes first.
    have nothing : before.flatMap Slot.refusals = [] := by
      apply List.flatMap_eq_nil_iff.mpr
      intro s member
      exact Slot.refusals_of_writable (earlier s member)
    rw [write, split, List.flatMap_append, nothing, List.flatMap_cons,
      Slot.refusals_of_not_writable unwritable]
    rfl
  · intro wire written
    obtain ⟨none, rfl⟩ := settled_eq_ok_iff.mp (write.symm.trans written)
    rw [slots_sent]
    constructor
    · rfl
    · rw [List.forall_mem_map]
      intro slot member
      exact Slot.written_of_writable (clean.mp none slot member)

/-- A presence of an unknown kind in which the user has a discriminator of five digits. -/
def misnumbered : Value := .record [
  ("status", .text "idle"),
  ("activities", .list [
    .record [("name", .text "go"), ("kind", .ofNat 5), ("buttons", .list [])],
    .record [("name", .text "chess"), ("kind", .number .nan), ("buttons", .list [])]]),
  ("user", .record [("id", .text "5"), ("discriminator", .ofNat 10000)])]

theorem write_slots_misnumbered : presence.layout.Typed misnumbered ∧
    Presence.form.write misnumbered =
      .error (.encode ⟨"type", "ActivityType value NaN has no wire code"⟩) := by
  have typed : presence.layout.Typed misnumbered := by
    simp [layout, misnumbered, Layout.presence, Layout.presenceUser, Layout.activity,
      Layout.required, Layout.optional, Layout.Typed, Layout.FieldsTyped, Atom.Typed, Leaf.Types,
      Value.get, List.lookup_cons, Value.isRecord, Value.ofNat]
  have go : (Slot.activityKind (.ofNat 5)).Writable := ⟨5, by decide, rfl⟩
  have chess : ¬ (Slot.activityKind (.number .nan)).Writable := by
    rintro ⟨code, _, same⟩
    cases same
  refine ⟨typed, ?_⟩
  exact (write_slots presence misnumbered typed).2.1 [.activityKind (.ofNat 5)] _ _ rfl
    (by simpa using go) chess

end RecordType
end ChatGateway
