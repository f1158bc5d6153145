import ChatGateway.Proofs.Decoding
import ChatGateway.Proofs.Writing
import ChatGateway.User.Projection

/-! What a kept partial user shows after any run of steps. `MergedFrom` says it field by field from
the users of the updates that succeeded: some fields are always overwritten, some only where the
user has them, the others never. -/
namespace ChatGateway

/-- The value, unless it is absent. -/
def Value.present? : Value → Option Value
  | .absent => none
  | v => some v

theorem Value.eq_of_present? {v w : Value} (there : v.present? = some w) : v = w ∧ w ≠ .absent := by
  cases v <;> simp_all [present?] <;> simp [← there]

namespace PresenceUser

/-- The fields that every update overwrites. -/
def overwritten : List String := ["id", "bot", "discriminator", "name"]

/-- The fields that an update overwrites where its user has them. -/
def refreshed : List String := ["avatar", "publicFlags"]

/-- The user has all that a canonical one needs. -/
def Complete (user : Value) : Prop :=
  ∀ name ∈ overwritten, user.get name ≠ .absent

/-- A partial user: a record that knows at least its identifier. -/
structure IsView (view : Value) : Prop where
  record : ∃ fields, view = .record fields
  id : view.get "id" ≠ .absent

/-- An update with a whole user brings a complete one, and changes of a view to itself take none of
the needed fields away. -/
def StepComplete : ViewStep → Prop
  | .update user => Complete user
  | .updateSelf changes => ∀ field ∈ changes.ownFields, field.1 ∈ overwritten → field.2 ≠ .absent
  | _ => True

def isUpdate : ViewStep → Bool
  | .project | .encode => false
  | _ => true

def succeeds (view : Value) (s : ViewStep) : Bool :=
  (step view s).1.outcome.isOk

/-- The canonical user that a step brings to the view. -/
def broughtTo (view : Value) : ViewStep → Option Value
  | .project | .encode => none
  | .update user => some user
  | .updateFromWire payload => (User.decode payload none).outcome.toOption
  | .updateSelf changes =>
    match toUser view with
    | .ok (.record user) => some (.record (Fields.setAll user changes.ownFields))
    | _ => none

def mergedBy (view : Value) (s : ViewStep) : Option Value :=
  if succeeds view s then broughtTo view s else none

/-- The users of the updates in a run that succeed, in order. -/
def merged (view : Value) : List ViewStep → List Value
  | [] => []
  | first :: rest => (mergedBy view first).toList ++ merged (step view first).2 rest

/-- The partial user that is kept after a run. -/
def keptAfter (view : Value) (steps : List ViewStep) : Value :=
  ((run view steps).getLast?.map Prod.snd).getD view

/-- The view after updates with `users`, from what it was before them. -/
structure MergedFrom (view : Value) (users : List Value) (after : Value) : Prop where
  overwritten : ∀ name ∈ overwritten,
    after.get name = (users.getLast?.map (·.get name)).getD (view.get name)
  refreshed : ∀ name ∈ refreshed,
    after.get name = (users.reverse.findSome? fun user => (user.get name).present?).getD (view.get name)
  untouched : ∀ name, name ∉ PresenceUser.overwritten → name ∉ PresenceUser.refreshed →
    after.get name = view.get name

theorem MergedFrom.refl (view : Value) : MergedFrom view [] view :=
  ⟨fun _ _ => rfl, fun _ _ => rfl, fun _ _ _ => rfl⟩

theorem MergedFrom.trans {view between after : Value} {first second : List Value}
    (before : MergedFrom view first between) (later : MergedFrom between second after) :
    MergedFrom view (first ++ second) after where
  overwritten name listed := by
    rw [later.overwritten name listed, before.overwritten name listed, List.getLast?_append]
    cases second.getLast? <;> rfl
  refreshed name listed := by
    rw [later.refreshed name listed, before.refreshed name listed, List.reverse_append,
      List.findSome?_append]
    cases second.reverse.findSome? fun user => (user.get name).present? <;> rfl
  untouched name unlisted other := by
    rw [later.untouched name unlisted other, before.untouched name unlisted other]

/-! ### One update -/

theorem updates_eq (user : Value) : updates user =
    [("id", user.get "id")] ++ Form.writtenField "avatar" (user.get "avatar") ++
      [("bot", user.get "bot")] ++ [("discriminator", user.get "discriminator")] ++
      [("name", user.get "name")] ++ Form.writtenField "publicFlags" (user.get "publicFlags") := by
  have parts : updates user =
      [("id", user.get "id")] ++ Form.writtenField "avatar" (user.get "avatar") ++
        [("bot", user.get "bot"), ("discriminator", user.get "discriminator"),
          ("name", user.get "name")] ++
        Form.writtenField "publicFlags" (user.get "publicFlags") := rfl
  simp only [parts, List.append_assoc, List.cons_append, List.nil_append]

theorem lookup_singleton (listed name : String) (value : Value) :
    [(listed, value)].lookup name = if name = listed then some value else none := by
  by_cases same : name = listed
  · subst same
    simp
  · have differs : (name == listed) = false := beq_eq_false_iff_ne.mpr same
    simp [List.lookup_cons, differs, same]

theorem lookup_writtenField (listed name : String) (wire : Value) :
    (Form.writtenField listed wire).lookup name =
      if name = listed then wire.present? else none := by
  cases wire with
  | absent => simp [Form.writtenField, Value.present?]
  | _ => exact lookup_singleton listed name _

theorem reverse_writtenField (listed : String) (wire : Value) :
    (Form.writtenField listed wire).reverse = Form.writtenField listed wire := by
  cases wire <;> rfl

/-- What an update with `user` puts under a name. -/
def updateAt (name : String) (user : Value) : Option Value :=
  if name ∈ overwritten then some (user.get name)
  else if name ∈ refreshed then (user.get name).present?
  else none

theorem lookup_updates (name : String) (user : Value) :
    (updates user).reverse.lookup name = updateAt name user := by
  simp only [updates_eq, List.reverse_append, List.reverse_singleton, reverse_writtenField,
    List.lookup_append, lookup_writtenField, lookup_singleton]
  by_cases listed : name ∈ overwritten ++ refreshed
  · simp only [overwritten, refreshed, List.cons_append, List.nil_append, List.mem_cons,
      List.not_mem_nil, or_false] at listed
    rcases listed with rfl | rfl | rfl | rfl | rfl | rfl <;>
      simp [updateAt, overwritten, refreshed]
  · simp only [overwritten, refreshed, List.cons_append, List.nil_append, List.mem_cons,
      List.not_mem_nil, or_false, not_or] at listed
    simp [updateAt, overwritten, refreshed, listed]

theorem mem_writtenField {listed : String} {wire : Value} {entry : String × Value}
    (member : entry ∈ Form.writtenField listed wire) :
    entry = (listed, wire) ∧ wire.present? = some wire := by
  cases wire <;> simp_all [Form.writtenField, Value.present?]

/-- No name is listed twice, so that each entry of an update is the one found under its name. -/
theorem updateAt_of_mem {user : Value} {entry : String × Value} (member : entry ∈ updates user) :
    updateAt entry.1 user = some entry.2 := by
  simp only [updates_eq, List.mem_append, List.mem_singleton] at member
  rcases member with ((((rfl | avatar) | rfl) | rfl) | rfl) | flags
  · rfl
  · obtain ⟨rfl, there⟩ := mem_writtenField avatar
    exact there
  · rfl
  · rfl
  · rfl
  · obtain ⟨rfl, there⟩ := mem_writtenField flags
    exact there

theorem updateWith_record {fields : List (String × Value)} {user : Value}
    (there : user.isVacant = false) :
    updateWith (.record fields) user = .ok (.record (Fields.setAll fields (updates user))) := by
  simp only [updateWith, Value.field, there]
  rfl

theorem not_vacant_of_complete {user : Value} (complete : Complete user) :
    user.isVacant = false := by
  have id : user.get "id" ≠ .absent := complete "id" (by simp [overwritten])
  cases user <;> first | rfl | exact absurd rfl id

theorem get_setAll_updates (fields : List (String × Value)) (user : Value) (name : String) :
    (Value.record (Fields.setAll fields (updates user))).get name =
      (updateAt name user).getD ((Value.record fields).get name) := by
  have record (fields : List (String × Value)) :
      (Value.record fields).get name = (fields.lookup name).getD .absent := rfl
  rw [record, record, Fields.lookup_setAll, lookup_updates]
  cases updateAt name user <;> rfl

theorem mergedFrom_setAll (fields : List (String × Value)) (user : Value) :
    MergedFrom (.record fields) [user] (.record (Fields.setAll fields (updates user))) where
  overwritten name listed := by
    rw [get_setAll_updates, updateAt, if_pos listed]
    rfl
  refreshed name listed := by
    have other : name ∉ overwritten := by
      simp only [refreshed, List.mem_cons, List.not_mem_nil, or_false] at listed
      rcases listed with rfl | rfl <;> decide
    rw [get_setAll_updates, updateAt, if_neg other, if_pos listed, List.reverse_singleton,
      List.findSome?_singleton]
  untouched name unlisted other := by
    rw [get_setAll_updates, updateAt, if_neg unlisted, if_neg other]
    rfl

/-! ### One step -/

/-- The canonical user that a partial one stands for, if it stands for one. -/
def canonical (view : Value) : List (String × Value) := [
  ("id", view.get "id"),
  ("name", view.get "name"),
  ("discriminator", view.get "discriminator"),
  ("bot", view.get "bot"),
  ("avatar", view.get "avatar"),
  ("publicFlags", view.get "publicFlags")]

/-- The view knows enough to stand for a canonical user. -/
def Knows (view : Value) : Prop :=
  view.get "bot" ≠ .absent ∧ view.get "discriminator" ≠ .absent ∧ view.get "name" ≠ .absent

theorem toUser_of_knows {fields : List (String × Value)} (knows : Knows (.record fields)) :
    toUser (.record fields) = .ok (.record (canonical (.record fields))) := by
  obtain ⟨bot, discriminator, name⟩ := knows
  have there : (Value.record fields).field "bot" = .ok ((Value.record fields).get "bot") := rfl
  simp only [toUser, there, canonical, Bind.bind, Except.bind]
  rfl

theorem toUser_of_not_knows {fields : List (String × Value)} (lacks : ¬ Knows (.record fields)) :
    toUser (.record fields) = .ok .absent := by
  have there : (Value.record fields).field "bot" = .ok ((Value.record fields).get "bot") := rfl
  simp only [toUser, there, Bind.bind, Except.bind]
  unfold Knows at lacks
  generalize (Value.record fields).get "bot" = a at *
  generalize (Value.record fields).get "discriminator" = b at *
  generalize (Value.record fields).get "name" = c at *
  split
  · rfl
  · rfl
  · rfl
  · rename_i known _ _
    simp_all

section
variable {fields : List (String × Value)} {s : ViewStep} {user : Value}

/-- A step that brings a user updates the view with it. -/
theorem outcome_take_of_brought (brought : broughtTo (.record fields) s = some user) :
    (take (.record fields) s).outcome =
      (updateWith (.record fields) user).map fun after => (.absent, after) := by
  cases s with
  | project | encode => contradiction
  | update whole =>
    obtain rfl := Option.some.inj brought
    simp only [take, Traced.outcome_bind, Traced.outcome_ofExcept, Traced.outcome_pure]
    cases updateWith (.record fields) whole <;> rfl
  | updateFromWire payload =>
    simp only [broughtTo] at brought
    cases decoded : (User.decode payload none).outcome with
    | error failure =>
      rw [decoded] at brought
      contradiction
    | ok whole =>
      rw [decoded] at brought
      obtain rfl := Option.some.inj brought
      simp only [take, Traced.outcome_bind, Traced.outcome_ofExcept, Traced.outcome_pure, decoded,
        Except.bind]
      cases updateWith (.record fields) whole <;> rfl
  | updateSelf changes =>
    by_cases knows : Knows (.record fields)
    · simp only [broughtTo, toUser_of_knows knows, Option.some.injEq] at brought
      simp only [take, Traced.outcome_bind, Traced.outcome_ofExcept, Traced.outcome_pure,
        toUser_of_knows knows, Except.bind, brought]
      cases updateWith (.record fields) user <;> rfl
    · simp [broughtTo, toUser_of_not_knows knows] at brought

/-- A step that brings no user keeps the view, if it does not fail. -/
theorem outcome_take_of_none (nothing : broughtTo (.record fields) s = none) :
    ∃ answer : Except Failure Value,
      (take (.record fields) s).outcome = answer.map fun value => (value, .record fields) := by
  cases s with
  | project =>
    refine ⟨toUser (.record fields), ?_⟩
    simp only [take, Traced.outcome_bind, Traced.outcome_ofExcept, Traced.outcome_pure]
    cases toUser (.record fields) <;> rfl
  | encode =>
    refine ⟨form.write (.record fields), ?_⟩
    simp only [take, Traced.outcome_bind, Traced.outcome_ofExcept, Traced.outcome_pure]
    cases form.write (.record fields) <;> rfl
  | update whole => contradiction
  | updateFromWire payload =>
    simp only [broughtTo] at nothing
    cases decoded : (User.decode payload none).outcome with
    | error failure =>
      exact ⟨.error failure, by simp only [take, Traced.outcome_bind, decoded]; rfl⟩
    | ok whole =>
      rw [decoded] at nothing
      contradiction
  | updateSelf changes =>
    by_cases knows : Knows (.record fields)
    · simp [broughtTo, toUser_of_knows knows] at nothing
    · refine ⟨.ok .absent, ?_⟩
      simp only [take, Traced.outcome_bind, Traced.outcome_ofExcept, toUser_of_not_knows knows]
      rfl

theorem succeeds_eq (view : Value) (s : ViewStep) :
    succeeds view s = (take view s).outcome.isOk := by
  rw [succeeds, step, Traced.outcome_map]
  cases (take view s).outcome <;> rfl

/-- A step that fails leaves the view as it is. -/
theorem step_of_failure {view : Value} (failed : succeeds view s = false) :
    (step view s).2 = view := by
  rw [succeeds_eq] at failed
  simp only [step]
  cases taken : (take view s).outcome with
  | error failure => rfl
  | ok result =>
    rw [taken] at failed
    contradiction

theorem step_of_none (nothing : broughtTo (.record fields) s = none) :
    (step (.record fields) s).2 = .record fields := by
  obtain ⟨answer, taken⟩ := outcome_take_of_none nothing
  simp only [step, taken]
  cases answer <;> rfl

/-- An update either takes its user over or fails. -/
theorem step_of_brought (brought : broughtTo (.record fields) s = some user) :
    (succeeds (.record fields) s = true ∧
      (step (.record fields) s).2 = .record (Fields.setAll fields (updates user))) ∨
    succeeds (.record fields) s = false := by
  have taken := outcome_take_of_brought brought
  cases vacant : user.isVacant with
  | false =>
    rw [updateWith_record vacant] at taken
    exact .inl ⟨by rw [succeeds_eq, taken]; rfl, by simp only [step, taken]; rfl⟩
  | true =>
    right
    rw [succeeds_eq, taken, updateWith, Value.field, if_pos vacant]
    rfl

theorem succeeds_of_brought (complete : Complete user)
    (brought : broughtTo (.record fields) s = some user) :
    succeeds (.record fields) s = true := by
  have taken := outcome_take_of_brought brought
  rw [updateWith_record (not_vacant_of_complete complete)] at taken
  rw [succeeds_eq, taken]
  rfl

/-- One step of a run: the view is merged with the user of the step, if there is one. -/
theorem step_merges : MergedFrom (.record fields) (mergedBy (.record fields) s).toList
    (step (.record fields) s).2 := by
  cases brought : broughtTo (.record fields) s with
  | none =>
    have unmerged : mergedBy (.record fields) s = none := by simp [mergedBy, brought]
    rw [unmerged, step_of_none brought]
    exact .refl _
  | some user =>
    rcases step_of_brought brought with ⟨ok, after⟩ | failed
    · have taken : mergedBy (.record fields) s = some user := by simp [mergedBy, brought, ok]
      rw [taken, after]
      exact mergedFrom_setAll fields user
    · have unmerged : mergedBy (.record fields) s = none := by simp [mergedBy, failed]
      rw [unmerged, step_of_failure failed]
      exact .refl _

/-! ### Users that updates bring -/

theorem complete_of_decode {payload : Value} {context : Option Context}
    (decoded : (User.decode payload context).outcome = .ok user) : Complete user := by
  obtain ⟨_, fits, rfl⟩ := @RecordType.accepted_of_decode .user (.within context) _ _ decoded
  have admitted : Layout.user.Admits payload := RecordType.admits_layout fits
  have each := (Layout.admits_record.mp admitted).2
  have id : payload.seen "id" ≠ .absent := fun absent =>
    Schema.not_fits_absent (absent ▸ each ("id", "id", .required .snowflake) (by simp))
  have name : payload.seen "username" ≠ .absent := fun absent =>
    Schema.not_fits_absent (absent ▸ each ("username", "name", .required .free) (by simp))
  have bot : (payload.seen "bot").orElse (.bool false) ≠ .absent := by
    cases payload.seen "bot" <;> simp [Value.orElse, Value.isVacant]
  intro field listed
  simp only [overwritten, List.mem_cons, List.not_mem_nil, or_false] at listed
  rcases listed with rfl | rfl | rfl | rfl
  · exact id
  · exact bot
  · exact Value.noConfusion
  · exact name

/-- Changes that take nothing away from a canonical user leave it complete. -/
theorem complete_of_changes {changes : List (String × Value)}
    (isView : IsView (.record fields)) (knows : Knows (.record fields))
    (kept : ∀ change ∈ changes, change.1 ∈ overwritten → change.2 ≠ .absent) :
    Complete (.record (Fields.setAll (canonical (.record fields)) changes)) := by
  intro name listed
  have own : (Value.record (canonical (.record fields))).get name ≠ .absent := by
    obtain ⟨bot, discriminator, named⟩ := knows
    simp only [overwritten, List.mem_cons, List.not_mem_nil, or_false] at listed
    rcases listed with rfl | rfl | rfl | rfl
    · exact isView.id
    · exact bot
    · exact discriminator
    · exact named
  rw [Value.get, Fields.lookup_setAll]
  cases found : changes.reverse.lookup name with
  | none => exact own
  | some value =>
    have member := List.mem_reverse.mp (Fields.mem_of_lookup found)
    exact kept _ member listed

theorem complete_of_brought (isView : IsView (.record fields)) (complete : StepComplete s)
    (brought : broughtTo (.record fields) s = some user) : Complete user := by
  cases s with
  | project | encode => contradiction
  | update whole =>
    obtain rfl := Option.some.inj brought
    exact complete
  | updateFromWire payload =>
    cases decoded : (User.decode payload none).outcome with
    | error failure =>
      rw [broughtTo, decoded] at brought
      contradiction
    | ok whole =>
      rw [broughtTo, decoded] at brought
      obtain rfl := Option.some.inj brought
      exact complete_of_decode decoded
  | updateSelf changes =>
    by_cases knows : Knows (.record fields)
    · simp only [broughtTo, toUser_of_knows knows, Option.some.injEq] at brought
      rw [← brought]
      exact complete_of_changes isView knows complete
    · simp [broughtTo, toUser_of_not_knows knows] at brought

theorem complete_of_merged (isView : IsView (.record fields)) (complete : StepComplete s)
    (taken : mergedBy (.record fields) s = some user) : Complete user := by
  unfold mergedBy at taken
  split at taken
  · exact complete_of_brought isView complete taken
  · contradiction

/-- A view stays one: it stays a record, and its identifier is replaced by another at most. -/
theorem step_isView {view : Value} (isView : IsView view) (complete : StepComplete s) :
    IsView (step view s).2 := by
  obtain ⟨fields, rfl⟩ := isView.record
  refine ⟨?_, ?_⟩
  · cases brought : broughtTo (.record fields) s with
    | none => exact ⟨fields, step_of_none brought⟩
    | some user =>
      rcases step_of_brought brought with ⟨_, after⟩ | failed
      · exact ⟨_, after⟩
      · exact ⟨fields, step_of_failure failed⟩
  · have id := (@step_merges fields s).overwritten "id" (by simp [overwritten])
    rw [id]
    cases taken : mergedBy (.record fields) s with
    | none => exact isView.id
    | some user => exact complete_of_merged isView complete taken "id" (by simp [overwritten])

end

/-! ### Whole runs -/

theorem keptAfter_cons (view : Value) (first : ViewStep) (rest : List ViewStep) :
    keptAfter view (first :: rest) = keptAfter (step view first).2 rest := by
  simp only [keptAfter, run, List.getLast?_cons]
  cases (run (step view first).2 rest).getLast? <;> rfl

theorem keptAfter_append (view : Value) (first second : List ViewStep) :
    keptAfter view (first ++ second) = keptAfter (keptAfter view first) second := by
  induction first generalizing view with
  | nil => rfl
  | cons s rest ih => rw [List.cons_append, keptAfter_cons, keptAfter_cons, ih]

theorem keptAfter_concat (view : Value) (steps : List ViewStep) (s : ViewStep) :
    keptAfter view (steps ++ [s]) = (step (keptAfter view steps) s).2 := by
  rw [keptAfter_append, keptAfter_cons]
  rfl

section
variable {view : Value} {steps : List ViewStep}

theorem keptAfter_isView (isView : IsView view) (complete : ∀ s ∈ steps, StepComplete s) :
    IsView (keptAfter view steps) := by
  induction steps generalizing view with
  | nil => exact isView
  | cons first rest ih =>
    rw [keptAfter_cons]
    have next := step_isView isView (complete first (by simp))
    exact ih next fun s member => complete s (by simp [member])

theorem keptAfter_merged (isView : IsView view) (complete : ∀ s ∈ steps, StepComplete s) :
    MergedFrom view (merged view steps) (keptAfter view steps) := by
  induction steps generalizing view with
  | nil => exact .refl view
  | cons first rest ih =>
    obtain ⟨fields, rfl⟩ := isView.record
    rw [keptAfter_cons]
    have next := step_isView isView (complete first (by simp))
    exact step_merges.trans (ih next fun s member => complete s (by simp [member]))

theorem merged_complete (isView : IsView view) (complete : ∀ s ∈ steps, StepComplete s) :
    ∀ user ∈ merged view steps, Complete user := by
  induction steps generalizing view with
  | nil => simp [merged]
  | cons first rest ih =>
    obtain ⟨fields, rfl⟩ := isView.record
    intro user member
    rcases List.mem_append.mp member with own | later
    · have taken := Option.mem_toList.mp own
      exact complete_of_merged isView (complete first (by simp)) taken
    · have next := step_isView isView (complete first (by simp))
      exact ih next (fun s member => complete s (by simp [member])) user later

/-- Once an update has succeeded the view stands for a canonical user. -/
theorem knows_of_merged (isView : IsView view) (complete : ∀ s ∈ steps, StepComplete s)
    (some : merged view steps ≠ []) : Knows (keptAfter view steps) := by
  have after := (keptAfter_merged isView complete).overwritten
  have last := merged_complete isView complete _ (List.getLast_mem some)
  have held : ∀ name ∈ overwritten, (keptAfter view steps).get name ≠ .absent := by
    intro name listed
    rw [after name listed, List.getLast?_eq_some_getLast some]
    exact last name listed
  exact ⟨held _ (by simp [overwritten]), held _ (by simp [overwritten]),
    held _ (by simp [overwritten])⟩

end

/-! ### Updates that change nothing -/

theorem lookup_of_get {fields : List (String × Value)} {name : String}
    (there : (Value.record fields).get name ≠ .absent) :
    fields.lookup name = some ((Value.record fields).get name) := by
  rw [Value.get] at there ⊢
  cases found : fields.lookup name with
  | none => simp [found] at there
  | some value => rfl

/-- An update with what the view holds already changes nothing. -/
theorem setAll_updates_of_held {fields : List (String × Value)} {user : Value}
    (held : ∀ name value, updateAt name user = some value → fields.lookup name = some value) :
    Fields.setAll fields (updates user) = fields :=
  Fields.setAll_of_lookup fun _ member => held _ _ (updateAt_of_mem member)

theorem setAll_updates_twice (fields : List (String × Value)) (user : Value) :
    Fields.setAll (Fields.setAll fields (updates user)) (updates user) =
      Fields.setAll fields (updates user) := by
  refine setAll_updates_of_held fun name value updated => ?_
  rw [Fields.lookup_setAll, lookup_updates, updated]
  rfl

/-- A complete user updates a view with values that are there. -/
theorem updateAt_of_complete {user value : Value} {name : String} (complete : Complete user)
    (updated : updateAt name user = some value) :
    name ∈ overwritten ++ refreshed ∧ user.get name = value ∧ value ≠ .absent := by
  unfold updateAt at updated
  split at updated
  · rename_i listed
    obtain rfl := Option.some.inj updated
    exact ⟨List.mem_append_left _ listed, rfl, complete name listed⟩
  · split at updated
    · rename_i listed
      exact ⟨List.mem_append_right _ listed, Value.eq_of_present? updated⟩
    · contradiction

theorem get_canonical (view : Value) {name : String} (listed : name ∈ overwritten ++ refreshed) :
    (Value.record (canonical view)).get name = view.get name := by
  simp only [overwritten, refreshed, List.cons_append, List.nil_append, List.mem_cons,
    List.not_mem_nil, or_false] at listed
  rcases listed with rfl | rfl | rfl | rfl | rfl | rfl <;> rfl

theorem setAll_updates_canonical {fields : List (String × Value)}
    (isView : IsView (.record fields)) (knows : Knows (.record fields)) :
    Fields.setAll fields (updates (.record (canonical (.record fields)))) = fields := by
  have complete : Complete (.record (canonical (.record fields))) :=
    @complete_of_changes fields [] isView knows (by simp)
  refine setAll_updates_of_held fun name value updated => ?_
  obtain ⟨listed, held, there⟩ := updateAt_of_complete complete updated
  rw [get_canonical _ listed] at held
  rw [← held]
  exact lookup_of_get (held ▸ there)

/-- An update of a view with itself and no changes keeps it, whether or not it stands for a canonical
user. -/
theorem step_updateSelf_nothing {view : Value} (isView : IsView view) :
    (step view (.updateSelf (.record []))).2 = view := by
  obtain ⟨fields, rfl⟩ := isView.record
  by_cases knows : Knows (.record fields)
  · have brought : broughtTo (.record fields) (.updateSelf (.record [])) =
        some (.record (canonical (.record fields))) := by
      rw [broughtTo, toUser_of_knows knows]
      rfl
    rcases step_of_brought brought with ⟨_, after⟩ | failed
    · rw [after, setAll_updates_canonical isView knows]
    · exact step_of_failure failed
  · have nothing : broughtTo (.record fields) (.updateSelf (.record [])) = none := by
      rw [broughtTo, toUser_of_not_knows knows]
    exact step_of_none nothing

theorem step_update_twice {view : Value} (isView : IsView view) (user : Value) :
    (step (step view (.update user)).2 (.update user)).2 = (step view (.update user)).2 := by
  obtain ⟨fields, rfl⟩ := isView.record
  rcases @step_of_brought fields (.update user) user rfl with ⟨_, after⟩ | failed
  · rw [after]
    rcases @step_of_brought _ (.update user) user rfl with ⟨_, again⟩ | failed
    · rw [again, setAll_updates_twice]
    · exact step_of_failure failed
  · rw [step_of_failure failed, step_of_failure failed]

/-- After any run of steps a view shows what the updates that succeeded brought, each field by its
own rule. An update that has a user to bring succeeds. Steps that only read or that fail leave no
trace in the view; once an update has succeeded it stands for a canonical user; and updates with
what is there already change nothing. -/
theorem run_merges (view : Value) (isView : IsView view) (steps : List ViewStep)
    (complete : ∀ s ∈ steps, StepComplete s) :
    MergedFrom view (merged view steps) (keptAfter view steps) ∧
    (∀ s user, StepComplete s → broughtTo (keptAfter view steps) s = some user →
      succeeds (keptAfter view steps) s = true) ∧
    (∀ before s after, steps = before ++ s :: after →
      isUpdate s = false ∨ succeeds (keptAfter view before) s = false →
      keptAfter view (before ++ [s]) = keptAfter view before) ∧
    (merged view steps ≠ [] → ∃ user, toUser (keptAfter view steps) = .ok (.record user)) ∧
    keptAfter view (steps ++ [.updateSelf (.record [])]) = keptAfter view steps ∧
    ∀ user, keptAfter view (steps ++ [.update user, .update user]) =
      keptAfter view (steps ++ [.update user]) := by
  have last := keptAfter_isView isView complete
  refine ⟨keptAfter_merged isView complete, ?_, ?_, ?_, ?_, ?_⟩
  · intro s user able brought
    obtain ⟨fields, shown⟩ := last.record
    rw [shown] at brought last ⊢
    exact succeeds_of_brought (complete_of_brought last able brought) brought
  · intro before s after split idle
    rw [keptAfter_concat]
    have earlier : IsView (keptAfter view before) :=
      keptAfter_isView isView fun s member => complete s (by simp [split, member])
    obtain ⟨fields, shown⟩ := earlier.record
    rw [shown] at idle ⊢
    rcases idle with reading | failed
    · exact step_of_none (by cases s <;> first | rfl | contradiction)
    · exact step_of_failure failed
  · intro some
    obtain ⟨fields, shown⟩ := last.record
    have knows := knows_of_merged isView complete some
    rw [shown] at knows ⊢
    exact ⟨_, toUser_of_knows knows⟩
  · rw [keptAfter_concat, step_updateSelf_nothing last]
  · intro user
    have pair : steps ++ [.update user, .update user] =
        (steps ++ [.update user]) ++ [.update user] := by simp
    rw [pair, keptAfter_concat, keptAfter_concat, step_update_twice last]

/-- A view that learns a whole user, is offered a payload without any, and renames itself. -/
def learned : List ViewStep := [
  .update (.record [("id", .text "5"), ("name", .text "ann"), ("discriminator", .ofNat 7),
    ("bot", .bool false), ("avatar", .text "face")]),
  .updateFromWire .null,
  .project,
  .updateSelf (.record [("name", .text "anna")])]

theorem run_merges_learned : IsView (.record [("id", .text "4"), ("email", .text "a@b")]) ∧
    (∀ s ∈ learned, StepComplete s) ∧
    ∃ after, after = keptAfter (.record [("id", .text "4"), ("email", .text "a@b")]) learned ∧
      after.get "id" = .text "5" ∧ after.get "name" = .text "anna" ∧
      after.get "avatar" = .text "face" ∧ after.get "email" = .text "a@b" := by
  have isView : IsView (.record [("id", .text "4"), ("email", .text "a@b")]) :=
    ⟨⟨_, rfl⟩, Value.noConfusion⟩
  have complete : ∀ s ∈ learned, StepComplete s := by
    simp [learned, StepComplete, Complete, overwritten, Value.ownFields, Value.get,
      List.lookup_cons, Value.ofNat]
  obtain ⟨merges, _⟩ := run_merges _ isView learned complete
  refine ⟨isView, complete, _, rfl, ?_, ?_, ?_, ?_⟩
  · exact merges.overwritten "id" (by decide)
  · exact merges.overwritten "name" (by decide)
  · exact merges.refreshed "avatar" (by decide)
  · exact merges.untouched "email" (by decide) (by decide)

end PresenceUser
end ChatGateway
