import ChatGateway.Proofs.Changes
import ChatGateway.Proofs.Formed
import ChatGateway.Proofs.Merge

/-! Partial users that come from the wire. What a payload says about a user it says to the decoder
of the partial record and to that of the canonical one alike, and a view that is refreshed with
decoded users can always be written and read again. -/
namespace ChatGateway

/-- The record without some of its fields. -/
def Value.unset (names : List String) : Value → Value
  | .record fields => .record (fields.filter fun field => !names.contains field.1)
  | v => v

theorem Fields.eq_of_lookup {κ α : Type} [BEq κ] [LawfulBEq κ] {xs ys : List (κ × α)}
    (distinct : (xs.map Prod.fst).Nodup) (names : ys.map Prod.fst = xs.map Prod.fst)
    (same : ∀ name, ys.lookup name = xs.lookup name) : ys = xs :=
  calc
    ys = (ys.map Prod.fst).filterMap fun name => (ys.lookup name).map fun value => (name, value) :=
      eq_filterMap_lookup (names ▸ distinct)
    _ = (xs.map Prod.fst).filterMap fun name =>
          (xs.lookup name).map fun value => (name, value) := by
      simp only [names, same]
    _ = xs := (eq_filterMap_lookup distinct).symm

theorem Fields.keys_set_of_mem {κ α : Type} [BEq κ] [LawfulBEq κ] {name : κ} (value : α)
    {fields : List (κ × α)} (held : name ∈ fields.map Prod.fst) :
    (set name value fields).map Prod.fst = fields.map Prod.fst := by
  have listed : (fields.map Prod.fst).any (· == name) = true := by
    rw [List.any_eq_true]
    exact ⟨name, held, beq_self_eq_true _⟩
  rw [keys_set, if_pos listed]

theorem Fields.keys_setAll_of_subset {κ α : Type} [BEq κ] [LawfulBEq κ]
    {fields updates : List (κ × α)} (held : updates.map Prod.fst ⊆ fields.map Prod.fst) :
    (setAll fields updates).map Prod.fst = fields.map Prod.fst := by
  induction updates generalizing fields with
  | nil => rfl
  | cons entry rest ih =>
    obtain ⟨own, others⟩ := List.cons_subset.mp (List.map_cons ▸ held)
    have kept := keys_set_of_mem entry.2 own
    exact (ih (kept ▸ others)).trans kept

theorem Fields.keys_setAll_subset {α : Type} {names : List String}
    {fields updates : List (String × α)} (held : fields.map Prod.fst ⊆ names)
    (brought : updates.map Prod.fst ⊆ names) : (setAll fields updates).map Prod.fst ⊆ names := by
  induction updates generalizing fields with
  | nil => exact held
  | cons entry rest ih =>
    obtain ⟨own, others⟩ := List.cons_subset.mp (List.map_cons ▸ brought)
    apply ih _ others
    rw [keys_set]
    split
    · exact held
    · exact List.append_subset.mpr ⟨held, by simpa using own⟩

namespace PresenceUser

/-- The fields of the partial record. -/
def known : List String :=
  ["id", "avatar", "bot", "discriminator", "email", "mfaEnabled", "name", "verified", "publicFlags"]

/-! ### One payload, two records -/

section
variable {payload : Value}

theorem entity_eq_record (payload : Value) : ∃ fields,
    Layout.presenceUser.entity payload = .record fields ∧ fields.map Prod.fst = known :=
  ⟨_, rfl, rfl⟩

/-- A payload of both shapes. -/
structure FitsBoth (payload : Value) : Prop where
  user : Layout.user.Admits payload
  partialUser : Layout.presenceUser.Admits payload

theorem FitsBoth.name (both : FitsBoth payload) : ∃ s, payload.seen "username" = .text s := by
  have each := (Layout.admits_record.mp both.user).2
  have name : Schema.free.Fits (payload.seen "username") :=
    each ("username", "name", .required .free) (by simp)
  simp only [Schema.free, Schema.Fits] at name
  obtain ⟨s, found, _⟩ := name
  exact ⟨s, found⟩

theorem FitsBoth.discriminator (both : FitsBoth payload) :
    (payload.seen "discriminator").isVacant = false := by
  have each := (Layout.admits_record.mp both.user).2
  have discriminator : Schema.discriminator.Fits (payload.seen "discriminator") :=
    each ("discriminator", "discriminator", .atom .discriminator) (by simp)
  exact Schema.not_vacant_of_fits discriminator

theorem FitsBoth.bot (both : FitsBoth payload) :
    payload.seen "bot" = .absent ∨ ∃ b, payload.seen "bot" = .bool b := by
  have each := (Layout.admits_record.mp both.user).2
  have bot : payload.seen "bot" = .absent ∨ Schema.boolean.Fits (payload.seen "bot") :=
    each ("bot", "bot", .atom .switch) (by simp)
  rwa [Schema.fits_boolean] at bot

/-- The two records show the same, except that the partial one does not know whether a user is a bot
where the payload does not say so. -/
theorem FitsBoth.get (both : FitsBoth payload) {name : String}
    (listed : name ∈ overwritten ++ refreshed) (other : name ≠ "bot") :
    (Layout.user.entity payload).get name = (Layout.presenceUser.entity payload).get name := by
  obtain ⟨s, named⟩ := both.name
  simp only [overwritten, refreshed, List.cons_append, List.nil_append, List.mem_cons,
    List.not_mem_nil, or_false] at listed
  rcases listed with rfl | rfl | rfl | rfl | rfl | rfl
  · rfl
  · contradiction
  · exact (if_neg (by simp [both.discriminator])).symm
  · change payload.seen "username" = (payload.seen "username").orElse .absent
    rw [named]
    rfl
  · rfl
  · rfl

theorem FitsBoth.knows_iff (both : FitsBoth payload) :
    Knows (Layout.presenceUser.entity payload) ↔ payload.seen "bot" ≠ .absent := by
  obtain ⟨s, named⟩ := both.name
  have bot : (Layout.presenceUser.entity payload).get "bot" =
      (payload.seen "bot").orElse .absent := rfl
  have discriminator : (Layout.presenceUser.entity payload).get "discriminator" =
      Discriminator.ofWritten (payload.seen "discriminator") :=
    if_neg (by simp [both.discriminator])
  have name : (Layout.presenceUser.entity payload).get "name" = .text s := by
    change (payload.seen "username").orElse .absent = _
    rw [named]
    rfl
  rw [Knows, bot, discriminator, name]
  rcases both.bot with absent | ⟨b, given⟩
  · simp [absent, Value.orElse]
  · simp [given, Value.orElse, Value.isVacant, Discriminator.ofWritten, Value.ofNat]

theorem FitsBoth.canonical (both : FitsBoth payload) (given : payload.seen "bot" ≠ .absent) :
    Value.record (canonical (Layout.presenceUser.entity payload)) =
      (Layout.user.entity payload).unset ["banner", "accentColor", "member"] := by
  have own {name : String} (listed : name ∈ overwritten ++ refreshed) (other : name ≠ "bot") :=
    (both.get listed other).symm
  have bot : (Layout.presenceUser.entity payload).get "bot" =
      (Layout.user.entity payload).get "bot" := by
    change (payload.seen "bot").orElse .absent = (payload.seen "bot").orElse (.bool false)
    obtain ⟨b, found⟩ := both.bot.resolve_left given
    rw [found]
    rfl
  rw [PresenceUser.canonical, own (by decide) (by decide), bot, own (by decide) (by decide),
    own (by decide) (by decide), own (by decide) (by decide), own (by decide) (by decide)]
  rfl

theorem FitsBoth.toUser_of_bot (both : FitsBoth payload) (given : payload.seen "bot" ≠ .absent) :
    toUser (Layout.presenceUser.entity payload) =
      .ok ((Layout.user.entity payload).unset ["banner", "accentColor", "member"]) := by
  obtain ⟨fields, shown, _⟩ := entity_eq_record payload
  have knows := both.knows_iff.mpr given
  rw [← both.canonical given]
  rw [shown] at knows ⊢
  exact toUser_of_knows knows

theorem FitsBoth.toUser_of_no_bot (both : FitsBoth payload) (none : payload.seen "bot" = .absent) :
    toUser (Layout.presenceUser.entity payload) = .ok .absent := by
  obtain ⟨fields, shown, _⟩ := entity_eq_record payload
  have lacks : ¬ Knows (Layout.presenceUser.entity payload) :=
    fun knows => both.knows_iff.mp knows none
  rw [shown] at lacks ⊢
  exact toUser_of_not_knows lacks

/-- A view that knows all that a user brings, except perhaps whether the user is a bot, changes at
most there. -/
theorem setAll_updates_of_bot {fields : List (String × Value)} {user : Value}
    (distinct : (fields.map Prod.fst).Nodup)
    (names : overwritten ++ refreshed ⊆ fields.map Prod.fst) (complete : Complete user)
    (same : ∀ name ∈ overwritten ++ refreshed, name ≠ "bot" →
      user.get name = (Value.record fields).get name) :
    Fields.setAll fields (updates user) = Fields.set "bot" (user.get "bot") fields := by
  have bot : "bot" ∈ fields.map Prod.fst := names (by decide)
  have listed : (updates user).map Prod.fst ⊆ fields.map Prod.fst := by
    intro name member
    obtain ⟨entry, held, rfl⟩ := List.mem_map.mp member
    exact names (updateAt_of_complete complete (updateAt_of_mem held)).1
  have kept := Fields.keys_set_of_mem (user.get "bot") bot
  apply Fields.eq_of_lookup (kept ▸ distinct)
  · rw [kept, Fields.keys_setAll_of_subset listed]
  · intro name
    rw [Fields.lookup_setAll, lookup_updates, Fields.lookup_set]
    by_cases own : name = "bot"
    · subst own
      rfl
    · rw [beq_eq_false_iff_ne.mpr own, if_neg Bool.false_ne_true]
      cases updated : updateAt name user with
      | none => rfl
      | some value =>
        obtain ⟨listed, brought, there⟩ := updateAt_of_complete complete updated
        rw [same name listed own] at brought
        exact (brought ▸ lookup_of_get (brought ▸ there)).symm

/-- Refreshed with the canonical user of its own payload a view learns at most that the user is no
bot. -/
theorem FitsBoth.updateWith (both : FitsBoth payload)
    (complete : Complete (Layout.user.entity payload)) :
    updateWith (Layout.presenceUser.entity payload) (Layout.user.entity payload) =
      .ok ((Layout.presenceUser.entity payload).put "bot"
        ((payload.seen "bot").orElse (.bool false))) := by
  have there : (Layout.user.entity payload).isVacant = false := rfl
  obtain ⟨fields, shown, keys⟩ := entity_eq_record payload
  rw [shown, updateWith_record there, setAll_updates_of_bot]
  · rfl
  · rw [keys]
    decide
  · rw [keys]
    decide
  · exact complete
  · intro name listed other
    rw [both.get listed other, shown]

/-- Where the payload says whether the user is a bot there is nothing to learn. -/
theorem FitsBoth.updateWith_of_bot (both : FitsBoth payload)
    (complete : Complete (Layout.user.entity payload)) (given : payload.seen "bot" ≠ .absent) :
    PresenceUser.updateWith (Layout.presenceUser.entity payload) (Layout.user.entity payload) =
      .ok (Layout.presenceUser.entity payload) := by
  obtain ⟨b, found⟩ := both.bot.resolve_left given
  obtain ⟨fields, shown, _⟩ := entity_eq_record payload
  have own : (Value.record fields).get "bot" = .bool b := by
    rw [← shown]
    change (payload.seen "bot").orElse .absent = _
    rw [found]
    rfl
  have there : (Value.record fields).get "bot" ≠ .absent := by
    rw [own]
    exact Value.noConfusion
  have held : fields.lookup "bot" = some (.bool b) := by
    rw [lookup_of_get there, own]
  have answer : (Value.bool b).orElse (.bool false) = .bool b := rfl
  rw [both.updateWith complete, shown, found, answer, Value.put, Fields.set_of_lookup held]

end

/-! ### Views that are kept -/

section
variable {fields : List (String × Value)} {view user : Value} {s : ViewStep}

theorem holds_iff : Layout.presenceUser.Holds (.record fields) ↔
    fields.map Prod.fst ⊆ known ∧
      (Layout.required .snowflake).Holds ((Value.record fields).get "id") ∧
      (Layout.optional .free).Holds ((Value.record fields).get "avatar") ∧
      (Layout.optional .boolean).Holds ((Value.record fields).get "bot") ∧
      (Layout.atom .optionalDiscriminator).Holds ((Value.record fields).get "discriminator") ∧
      (Layout.optional .free).Holds ((Value.record fields).get "email") ∧
      (Layout.optional .boolean).Holds ((Value.record fields).get "mfaEnabled") ∧
      (Layout.optional .free).Holds ((Value.record fields).get "name") ∧
      (Layout.optional .boolean).Holds ((Value.record fields).get "verified") ∧
      (Layout.atom (.optionalFlags FlagTable.userPublic)).Holds
        ((Value.record fields).get "publicFlags") := by
  simp only [Layout.presenceUser, Layout.Holds, Layout.FieldsHold, Value.record.injEq,
    exists_eq_left', and_true]
  rfl

theorem get_of_refreshed {name : String} (listed : name ∈ refreshed) :
    (Value.record (Fields.setAll fields (updates user))).get name = user.get name ∨
      (Value.record (Fields.setAll fields (updates user))).get name =
        (Value.record fields).get name := by
  rw [(mergedFrom_setAll fields user).refreshed name listed, List.reverse_singleton,
    List.findSome?_singleton]
  cases brought : (user.get name).present? with
  | none => exact .inr rfl
  | some value =>
    obtain ⟨same, _⟩ := Value.eq_of_present? brought
    exact .inl same.symm

/-- An update with a well-formed user keeps a view well formed. -/
theorem holds_setAll (held : Layout.presenceUser.Holds (.record fields))
    (complete : Complete user) (given : Layout.user.Holds user) :
    Layout.presenceUser.Holds (.record (Fields.setAll fields (updates user))) := by
  have merged := mergedFrom_setAll fields user
  obtain ⟨keys, id, avatar, bot, discriminator, email, mfa, name, verified, flags⟩ :=
    holds_iff.mp held
  simp only [Layout.user, Layout.Holds] at given
  obtain ⟨_, _, _, each⟩ := given
  have each := Layout.fieldsHold_iff.mp each
  apply holds_iff.mpr
  refine ⟨?_, ?_, ?_, ?_, ?_, ?_, ?_, ?_, ?_, ?_⟩
  · apply Fields.keys_setAll_subset keys
    intro name member
    obtain ⟨entry, listed, rfl⟩ := List.mem_map.mp member
    have brought := (updateAt_of_complete complete (updateAt_of_mem listed)).1
    exact (by decide : overwritten ++ refreshed ⊆ known) brought
  · rw [merged.overwritten "id" (by decide)]
    exact each ("id", "id", .required .snowflake) (by simp)
  · rcases @get_of_refreshed fields user "avatar" (by decide) with brought | kept
    · rw [brought]
      exact each ("avatar", "avatar", .optional .free) (by simp)
    · rw [kept]
      exact avatar
  · rw [merged.overwritten "bot" (by decide)]
    exact .inr (each ("bot", "bot", .atom .switch) (by simp))
  · rw [merged.overwritten "discriminator" (by decide)]
    exact .inr (each ("discriminator", "discriminator", .atom .discriminator) (by simp))
  · rw [merged.untouched "email" (by decide) (by decide)]
    exact email
  · rw [merged.untouched "mfaEnabled" (by decide) (by decide)]
    exact mfa
  · rw [merged.overwritten "name" (by decide)]
    exact .inr (each ("username", "name", .required .free) (by simp))
  · rw [merged.untouched "verified" (by decide) (by decide)]
    exact verified
  · rcases @get_of_refreshed fields user "publicFlags" (by decide) with brought | kept
    · rw [brought]
      exact each ("public_flags", "publicFlags", .atom (.optionalFlags FlagTable.userPublic))
        (by simp)
    · rw [kept]
      exact flags

/-- The canonical user of a well-formed view is well formed. -/
theorem holds_canonical (held : Layout.presenceUser.Holds (.record fields))
    (knows : Knows (.record fields)) :
    Layout.user.Holds (.record (canonical (.record fields))) := by
  obtain ⟨keys, id, avatar, bot, discriminator, email, mfa, name, verified, flags⟩ :=
    holds_iff.mp held
  obtain ⟨botKnown, discriminatorKnown, nameKnown⟩ := knows
  simp only [Layout.user, Layout.Holds, Layout.FieldsHold, and_true]
  refine ⟨_, rfl, by simp [canonical], id, name.resolve_left nameKnown,
    discriminator.resolve_left discriminatorKnown, bot.resolve_left botKnown, avatar, flags,
    .inl rfl, .inl rfl, .inl rfl⟩

/-- Only users that come from the wire are brought. -/
def FromWire : ViewStep → Prop
  | .update user => ∃ payload context, (User.decode payload context).outcome = .ok user
  | .updateSelf _ => False
  | _ => True

theorem decoded_of_brought (fromWire : FromWire s) (brought : broughtTo view s = some user) :
    ∃ payload context, (User.decode payload context).outcome = .ok user := by
  cases s with
  | project | encode => contradiction
  | updateSelf changes => contradiction
  | update whole =>
    obtain rfl := Option.some.inj brought
    exact fromWire
  | updateFromWire payload =>
    refine ⟨payload, none, ?_⟩
    rw [broughtTo] at brought
    cases decoded : (User.decode payload none).outcome with
    | error failure =>
      rw [decoded] at brought
      contradiction
    | ok whole =>
      rw [decoded] at brought
      rw [Option.some.inj brought]

theorem record_of_holds (held : Layout.presenceUser.Holds view) :
    ∃ fields, view = .record fields := by
  simp only [Layout.presenceUser, Layout.Holds] at held
  obtain ⟨fields, shown, _⟩ := held
  exact ⟨fields, shown⟩

theorem holds_of_decode {payload : Value} {context : Option Context}
    (decoded : (decode payload context).outcome = .ok view) : Layout.presenceUser.Holds view := by
  obtain ⟨_, fits, rfl⟩ :=
    @RecordType.accepted_of_decode .presenceUser (.within context) _ _ decoded
  have coded : Layout.presenceUser.Coded payload := by
    simp [Layout.presenceUser, Layout.optional, Layout.required, Layout.Coded, Layout.FieldsCoded,
      Atom.Coded]
  exact Layout.holds_entity (RecordType.coherent_layout .presenceUser)
    (RecordType.admits_layout fits) coded

theorem user_holds_of_decode {payload : Value} {context : Option Context}
    (decoded : (User.decode payload context).outcome = .ok user) : Layout.user.Holds user := by
  obtain ⟨_, fits, rfl⟩ := @RecordType.accepted_of_decode .user (.within context) _ _ decoded
  exact Layout.holds_entity (RecordType.coherent_layout .user) (RecordType.admits_layout fits)
    Layout.user_coded

/-- A step with a user from the wire keeps a view well formed. -/
theorem holds_step (held : Layout.presenceUser.Holds view) (fromWire : FromWire s) :
    Layout.presenceUser.Holds (step view s).2 := by
  obtain ⟨fields, rfl⟩ := record_of_holds held
  cases brought : broughtTo (.record fields) s with
  | none =>
    rw [step_of_none brought]
    exact held
  | some user =>
    rcases step_of_brought brought with ⟨_, after⟩ | failed
    · obtain ⟨payload, context, decoded⟩ := decoded_of_brought fromWire brought
      rw [after]
      exact holds_setAll held (complete_of_decode decoded) (user_holds_of_decode decoded)
    · rw [step_of_failure failed]
      exact held

theorem holds_keptAfter {steps : List ViewStep} (held : Layout.presenceUser.Holds view)
    (fromWire : ∀ s ∈ steps, FromWire s) : Layout.presenceUser.Holds (keptAfter view steps) := by
  induction steps generalizing view with
  | nil => exact held
  | cons first rest ih =>
    rw [keptAfter_cons]
    apply ih (holds_step held (fromWire first List.mem_cons_self))
    intro s member
    exact fromWire s (List.mem_cons_of_mem first member)

end

/-- Projection and decoding commute. A payload that both decoders accept gives a view that stands
for a canonical user exactly if it is seen, in the payload itself or in what it inherits, whether
the user is a bot; that user is the decoded one without what only a canonical record has, and an
update of the view with the decoded one adds at most that the user is no bot. However a decoded
view is refreshed with decoded users, it is written and decoded to the same view again, and so is
the canonical user that it stands for. -/
theorem projection_commutes (payload : Value) :
    (∀ context other user view,
      (User.decode payload context).outcome = .ok user →
      (decode payload other).outcome = .ok view →
      (toUser view = .ok .absent ↔ payload.seen "bot" = .absent) ∧
      (payload.seen "bot" ≠ .absent →
        toUser view = .ok (user.unset ["banner", "accentColor", "member"]) ∧
        updateWith view user = .ok view) ∧
      (payload.seen "bot" = .absent → updateWith view user = .ok (view.put "bot" (.bool false)))) ∧
    ∀ context view, (decode payload context).outcome = .ok view →
      ∀ steps, (∀ s ∈ steps, FromWire s) →
        (∃ wire, form.write (keptAfter view steps) = .ok wire ∧
          ∀ later, ∃ decoded, (decode wire later).outcome = .ok decoded ∧
            decoded.Same (keptAfter view steps)) ∧
        (toUser (keptAfter view steps) = .ok .absent ∨
          ∃ user wire, toUser (keptAfter view steps) = .ok user ∧
            User.form.write user = .ok wire ∧
            ∀ later, ∃ decoded, (User.decode wire later).outcome = .ok decoded ∧
              decoded.Same user) := by
  constructor
  · intro context other user view userDecoded viewDecoded
    have complete := complete_of_decode userDecoded
    obtain ⟨_, fits, rfl⟩ :=
      @RecordType.accepted_of_decode .user (.within context) _ _ userDecoded
    obtain ⟨_, viewFits, rfl⟩ :=
      @RecordType.accepted_of_decode .presenceUser (.within other) _ _ viewDecoded
    have both : FitsBoth payload :=
      ⟨RecordType.admits_layout fits, RecordType.admits_layout viewFits⟩
    refine ⟨⟨?_, both.toUser_of_no_bot⟩, ?_, ?_⟩
    · intro nothing
      by_contra given
      have projected := both.toUser_of_bot given
      rw [← both.canonical given] at projected
      cases projected.symm.trans nothing
    · intro given
      exact ⟨both.toUser_of_bot given, both.updateWith_of_bot complete given⟩
    · intro none
      have updated := both.updateWith complete
      rwa [none] at updated
  · intro context view decoded steps fromWire
    have held := holds_keptAfter (holds_of_decode decoded) fromWire
    refine ⟨RecordType.reread_of_holds .presenceUser (by decide) held, ?_⟩
    obtain ⟨fields, shown⟩ := record_of_holds held
    rw [shown] at held ⊢
    by_cases knows : Knows (.record fields)
    · obtain ⟨wire, written, reread⟩ :=
        RecordType.reread_of_holds .user (by decide) (holds_canonical held knows)
      exact .inr ⟨_, wire, toUser_of_knows knows, written, reread⟩
    · exact .inl (toUser_of_not_knows knows)

/-- A user of whom it is not said whether it is a bot. -/
def newcomer : Value := .record [
  ("id", .text "5"), ("username", .text "ann"), ("discriminator", .text "0007"),
  ("avatar", .null), ("banner", .text "b")]

theorem projection_commutes_newcomer : ∃ user view,
    (User.decode newcomer none).outcome = .ok user ∧
    (decode newcomer none).outcome = .ok view ∧
    newcomer.seen "bot" = .absent ∧
    updateWith view user = .ok (view.put "bot" (.bool false)) ∧
    (∀ s ∈ [.update user, .updateFromWire newcomer, .encode], FromWire s) ∧
    ∃ wire, form.write (keptAfter view [.update user, .updateFromWire newcomer, .encode]) =
      .ok wire := by
  obtain ⟨user, userDecoded⟩ : ∃ user, (User.decode newcomer none).outcome = .ok user := ⟨_, rfl⟩
  obtain ⟨view, viewDecoded⟩ : ∃ view, (decode newcomer none).outcome = .ok view := ⟨_, rfl⟩
  have fromWire : ∀ s ∈ [.update user, .updateFromWire newcomer, .encode], FromWire s := by
    simp only [List.forall_mem_cons, FromWire, List.not_mem_nil, false_imp_iff, implies_true,
      and_true]
    exact ⟨newcomer, none, userDecoded⟩
  obtain ⟨together, kept⟩ := projection_commutes newcomer
  obtain ⟨_, _, learned⟩ := together none none user view userDecoded viewDecoded
  obtain ⟨⟨wire, written, _⟩, _⟩ := kept none view viewDecoded _ fromWire
  exact ⟨user, view, userDecoded, viewDecoded, rfl, learned rfl, fromWire, wire, written⟩

/-- A user that inherits the answer. -/
def offspring : Value := .record [
  ("id", .text "5"), ("username", .text "ann"), ("discriminator", .text "7"),
  ("__proto__", .record [("bot", .bool true)])]

example : offspring.get "bot" = .absent ∧ ∃ view user, (decode offspring none).outcome = .ok view ∧
    toUser view = .ok user ∧ user.get "bot" = .bool true :=
  ⟨rfl, _, _, rfl, rfl, rfl⟩

end PresenceUser
end ChatGateway
