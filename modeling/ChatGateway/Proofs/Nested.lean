import ChatGateway.Proofs.Decoding

/-! Records inside the initial state of a session. Each is what its own decoder makes of its part of
the payload, whatever stands beside it. A part may be inherited as well as a record's own. -/
namespace ChatGateway

namespace Schema

/-- Only what is there can break the checker down. -/
theorem breaksDown_absent (shape : Schema) : shape.breaksDown .absent = false := by
  induction shape with
  | either first second ofFirst ofSecond => simp only [breaksDown, ofFirst, ofSecond, Bool.or_self]
  | record fields _ => simp only [breaksDown, Value.isRecord, Bool.false_and]
  | _ => simp only [breaksDown]

theorem fieldsBreakDown_seen {fields : List (String × Occurrence × Schema)} {v : Value}
    (checkable : fieldsBreakDown fields v = false) {field : String × Occurrence × Schema}
    (member : field ∈ fields) : field.2.2.breaksDown (v.seen field.1) = false := by
  induction fields with
  | nil => contradiction
  | cons head rest ih =>
    obtain ⟨name, occurrence, shape⟩ := head
    simp only [fieldsBreakDown, Bool.or_eq_false_iff] at checkable
    rcases List.mem_cons.mp member with rfl | later
    · exact checkable.1.2
    · exact ih checkable.2 later

theorem breaksDown_seen {fields : List (String × Occurrence × Schema)} {v : Value}
    (checkable : (record fields).breaksDown v = false) {field : String × Occurrence × Schema}
    (member : field ∈ fields) : field.2.2.breaksDown (v.seen field.1) = false := by
  simp only [breaksDown, Bool.and_eq_false_iff, Bool.or_eq_false_iff] at checkable
  rcases checkable with other | ⟨_, checkable⟩
  · have nothing : v.seen field.1 = .absent := by
      cases v <;> first | rfl | simp [Value.isRecord] at other
    rw [nothing]
    exact breaksDown_absent _
  · exact fieldsBreakDown_seen checkable member

theorem breaksDown_listed {item : Schema} {v : Value}
    (checkable : (list item).breaksDown v = false) : ∀ x ∈ v.listed, item.breaksDown x = false := by
  cases v with
  | list items =>
    simpa only [breaksDown, List.any_eq_false, Bool.not_eq_true, Value.listed] using checkable
  | _ => simp [Value.listed]

end Schema

namespace Layout

/-- The value passes the check by the schema of the layout, wherever it stands. -/
structure Passes (layout : Layout) (v : Value) : Prop where
  checkable : layout.schema.breaksDown v = false
  admitted : layout.Admits v

theorem Passes.field {fields : List (String × String × Layout)} {v : Value}
    (passes : (record fields).Passes v) {wireName : String} (name : String) {inner : Layout}
    (member : (wireName, name, inner) ∈ fields) : inner.Passes (v.seen wireName) where
  checkable := by
    have checkable := passes.checkable
    simp only [schema, shapeFields_eq_map] at checkable
    exact Schema.breaksDown_seen checkable (List.mem_map_of_mem member)
  admitted := (admits_record.mp passes.admitted).2 _ member

theorem Passes.inner {inner : Layout} {v : Value} (passes : (ofUser inner).Passes v) :
    inner.Passes v where
  checkable := by simpa only [schema] using passes.checkable
  admitted := admits_ofUser.mp passes.admitted

theorem passes_listed {item : Layout} {v : Value}
    (checkable : (Schema.list item.schema).breaksDown v = false)
    (admitted : v = .absent ∨ (list item).Admits v) : ∀ x ∈ v.listed, item.Passes x := by
  intro x member
  obtain ⟨_, each⟩ := listed_of_admits admitted
  exact ⟨Schema.breaksDown_listed checkable x member, admits_of_fits (each x member)⟩

end Layout

/-- Whatever passes the check of a record is decoded on its own. -/
theorem RecordType.outcome_decode_of_passes (r : RecordType) (other : r ≠ ready) {v : Value}
    (passes : r.layout.Passes v) (call : Call) :
    (r.decode v call).outcome = .ok (r.layout.entity v) := by
  have fits := Layout.fits_of_admits r.required_layout passes.admitted
  have checkable := passes.checkable
  rw [schema_layout] at fits checkable
  exact outcome_decode_of_fits (configured_of_ne other) checkable fits

namespace Ready

/-- The entries hold the last item of each key under it, as `agrees` says what is read from it, in
the order in which the keys first appear. -/
structure Keeps (path : List String) (agrees : Value → Value → Prop) (items : List Value)
    (entries : List (Value × Value)) : Prop where
  texts : ∀ item ∈ items, item.reach path = .text (item.keyText path)
  keys : entries.map Prod.fst = (items.map (Value.keyText path)).eraseDups.map .text
  last : ∀ entry ∈ entries, ∃ before wire after, items = before ++ wire :: after ∧
    wire.reach path = entry.1 ∧ (∀ later ∈ after, later.reach path ≠ entry.1) ∧
    agrees wire entry.2

/-- A presence is decoded on its own, and so are the activities and the user inside it. -/
structure PresenceAgrees (wire presence : Value) : Prop where
  decoded : ∀ context, (Presence.decode wire context).outcome = .ok presence
  activities : ∃ activities, presence.get "activities" = .list activities ∧
    List.Forall₂ (fun wire activity => ∀ context,
      (Activity.decode wire context).outcome = .ok activity)
      (wire.itemsSeen "activities") activities
  user : ∀ context,
    (PresenceUser.decode (wire.seen "user") context).outcome = .ok (presence.get "user")

/-- A copy of a private channel is read on its own, and its recipients are decoded on their own. -/
structure ChannelAgrees (wire channel : Value) : Prop where
  read : ∀ context,
    (PrivateChannel.form.read (Schema.privateChannel.copied wire) context).outcome = .ok channel
  recipients : ∃ recipients, channel.get "recipients" = .list recipients ∧
    List.Forall₂ (fun wire user => ∀ context,
      (User.decode wire context).outcome = .ok user) (wire.itemsSeen "recipients") recipients

theorem keeps_of_passes {collection : String} {path : List String} {item : Layout} {v : Value}
    (sound : (Layout.keyed collection path item).coherent = true)
    (passes : (Layout.keyed collection path item).Passes v) {agrees : Value → Value → Prop}
    (each : ∀ x, item.Passes x → agrees x (item.entity x)) : ∃ entries,
      (Layout.keyed collection path item).entity v = .map entries ∧
        Keeps path agrees v.listed entries := by
  obtain ⟨keyed, sound⟩ := Layout.coherent_keyed.mp sound
  have passing := Layout.passes_listed passes.checkable (Layout.admits_keyed.mp passes.admitted)
  have texts : ∀ x ∈ v.listed, x.reach path = .text (x.keyText path) := by
    intro x member
    have fits := Layout.fits_of_admits (Layout.required_of_hasKey keyed)
      (passing x member).admitted
    obtain ⟨s, found, _⟩ := Layout.follow_of_hasKey sound keyed fits
    rw [found, Layout.keyText_of_reach found]
  refine ⟨_, rfl, texts, ?_, ?_⟩
  · rw [← keys_lastOfEach, List.map_map, List.map_map]
    rfl
  · intro entry member
    obtain ⟨⟨name, wire⟩, kept, rfl⟩ := List.mem_map.mp member
    obtain ⟨before, after, split, key, none⟩ := mem_lastOfEach kept
    have held : wire ∈ v.listed := by simp [split]
    refine ⟨before, wire, after, split, ?_, ?_, each wire (passing wire held)⟩
    · rw [texts wire held, key]
      rfl
    · intro later member same
      have held : later ∈ v.listed := by simp [split, member]
      rw [texts later held] at same
      exact none later member (Value.text.inj same)

theorem presenceAgrees_of_passes {v : Value} (passes : Layout.presence.Passes v) :
    PresenceAgrees v (Layout.presence.entity v) where
  decoded context :=
    RecordType.outcome_decode_of_passes .presence (by decide) passes (.within context)
  activities := by
    have inside : (Layout.optionalList .activity).Passes (v.seen "activities") :=
      passes.inner.field "activities" (by simp)
    refine ⟨(v.seen "activities").listed.map Layout.activity.entity, rfl, ?_⟩
    rw [Value.itemsSeen, List.forall₂_map_right_iff, List.forall₂_same]
    have admitted := Layout.admits_optionalList.mp inside.admitted
    intro wire member context
    have passes := Layout.passes_listed inside.checkable admitted wire member
    exact RecordType.outcome_decode_of_passes .activity (by decide) passes (.within context)
  user context := by
    have inside : Layout.presenceUser.Passes (v.seen "user") :=
      passes.inner.field "user" (by simp)
    exact RecordType.outcome_decode_of_passes .presenceUser (by decide) inside (.within context)

theorem channelAgrees_of_passes {v : Value} (passes : Layout.privateChannel.Passes v) :
    ChannelAgrees v (Layout.privateChannel.entity v) where
  read context := Layout.outcome_read rfl passes.admitted context
  recipients := by
    have inside : (Layout.list .user).Passes (v.seen "recipients") :=
      passes.field "recipients" (by simp)
    refine ⟨(v.seen "recipients").listed.map Layout.user.entity, rfl, ?_⟩
    rw [Value.itemsSeen, List.forall₂_map_right_iff, List.forall₂_same]
    intro wire member context
    have passes := Layout.passes_listed inside.checkable (.inr inside.admitted) wire member
    exact RecordType.outcome_decode_of_passes .user (by decide) passes (.within context)

/-- Decoding a state decodes the records that are seen inside it, each as if it stood alone: of
presences and private channels the last under each key, activities and recipients one by one. -/
theorem decode_nested {payload options ready : Value} {env : Environment} {clock : Clock}
    (decoded : (decode payload options env clock).outcome = .ok ready) :
    (∃ entries, ready.get "presences" = .map entries ∧
      Keeps ["user", "id"] PresenceAgrees (payload.itemsSeen "presences") entries) ∧
    (∃ entries, ready.get "privateChannels" = .map entries ∧
      Keeps ["id"] ChannelAgrees (payload.itemsSeen "private_channels") entries) ∧
    ∀ context, (CurrentUser.decode (payload.seen "user") context).outcome =
      .ok (ready.get "user") := by
  obtain ⟨checkable, fits, rfl⟩ := accepted_of_decode decoded
  have passes : Layout.ready.Passes payload := ⟨checkable, Layout.admits_of_fits fits⟩
  have presences : (Layout.keyed "presences" ["user", "id"] .presence).Passes
      (payload.seen "presences") := passes.field "presences" (by simp)
  have channels : (Layout.keyed "private_channels" ["id"] .privateChannel).Passes
      (payload.seen "private_channels") := passes.field "privateChannels" (by simp)
  have user : Layout.currentUser.Passes (payload.seen "user") := passes.field "user" (by simp)
  rw [Value.itemsSeen, Value.itemsSeen]
  refine ⟨?_, ?_, fun context => ?_⟩
  · exact keeps_of_passes rfl presences fun _ => presenceAgrees_of_passes
  · exact keeps_of_passes rfl channels fun _ => channelAgrees_of_passes
  · exact RecordType.outcome_decode_of_passes .currentUser (by decide) user (.within context)

theorem decode_nested_crowd : ∃ ready entries,
    (decode crowd (.record []) [] ⟨0, 3⟩).outcome = .ok ready ∧
    ready.get "presences" = .map entries ∧ entries.map Prod.fst = [.text "5", .text "6"] ∧
    Keeps ["user", "id"] PresenceAgrees (crowd.itemsSeen "presences") entries := by
  have decoded : (decode crowd (.record []) [] ⟨0, 3⟩).outcome = .ok (Layout.ready.entity crowd) :=
    rfl
  obtain ⟨⟨entries, presences, keeps⟩, _⟩ := decode_nested decoded
  exact ⟨_, entries, decoded, presences, keeps.keys, keeps⟩

end Ready
end ChatGateway
