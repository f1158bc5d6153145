import ChatGateway.Proofs.Discriminator
import ChatGateway.Proofs.Layout

/-! Writing what is well formed: each kind of field has one lemma that says what is written, and a
record is written field by field. -/
namespace ChatGateway

theorem mapM_eq_ok {α β : Type} {f : α → Except Failure β} {g : α → β} {items : List α}
    (each : ∀ item ∈ items, f item = .ok (g item)) : items.mapM f = .ok (items.map g) := by
  induction items with
  | nil => rfl
  | cons item rest ih =>
    rw [List.mapM_cons, each item (by simp), ih fun other member => each other (by simp [member])]
    rfl

theorem Form.writtenField_cases (name : String) (wire : Value) :
    (wire = .absent ∧ writtenField name wire = []) ∨
      (wire ≠ .absent ∧ writtenField name wire = [(name, wire)]) := by
  cases wire <;> simp [writtenField]

theorem Discriminator.write_ofNat {field : String} {n : Nat} (small : n ≤ 9999) :
    (Discriminator.form field).write (.ofNat n) = .ok (.text (fourDigits n)) := by
  have written := @encode_ofNat field n small
  simp only [form, Value.ofNat, written]
  rfl

theorem FlagTable.encode_flags {table : FlagTable} {n : Nat} (safe : n ≤ Number.safeLimit) :
    encode (.flags ⟨table, n⟩) = .ok (.ofNat n) := by
  simp only [encode, FlagSet.toNumber, Number.nearestInt_ofNat safe]
  rfl

theorem Enumeration.encode_of_isKnown {kinds : Enumeration} {field : String} {v : Value}
    (known : kinds.isKnown v = true) : kinds.encode field v = .ok v := by
  simp only [encode, known, if_true]
  rfl

theorem Enumeration.isKnown_number_iff {kinds : Enumeration} {code : Number} :
    kinds.isKnown (.number code) = true ↔ code ∈ kinds.known := by
  rw [isKnown, Value.number?, Option.any_some, List.contains_iff_mem]

theorem Enumeration.exists_of_isKnown {kinds : Enumeration} {v : Value}
    (known : kinds.isKnown v = true) : ∃ code ∈ kinds.known, v = .number code := by
  cases v with
  | number n => exact ⟨n, isKnown_number_iff.mp known, rfl⟩
  | _ => simp [isKnown, Value.number?] at known

theorem Enumeration.isKnown_iff {kinds : Enumeration}
    (six : kinds.known = (List.range 6).map .ofNat) {v : Value} :
    kinds.isKnown v = true ↔ ∃ code ≤ 5, v = .ofNat code := by
  constructor
  · intro known
    obtain ⟨code, listed, rfl⟩ := exists_of_isKnown known
    rw [six, List.mem_map] at listed
    obtain ⟨n, small, rfl⟩ := listed
    exact ⟨n, Nat.lt_succ_iff.mp (List.mem_range.mp small), rfl⟩
  · rintro ⟨code, small, rfl⟩
    have listed : Number.ofNat code ∈ kinds.known :=
      six ▸ List.mem_map_of_mem (List.mem_range.mpr (Nat.lt_succ_of_le small))
    exact isKnown_number_iff.mpr listed

theorem isKnown_activityKinds {v : Value} :
    activityKinds.isKnown v = true ↔ ∃ code ≤ 5, v = .ofNat code :=
  Enumeration.isKnown_iff (by decide)

theorem isKnown_channelKinds {v : Value} :
    channelKinds.isKnown v = true ↔ ∃ code ≤ 5, v = .ofNat code :=
  Enumeration.isKnown_iff (by decide)

theorem ActivityButton.write_texts {items : List Value}
    (texts : ∀ item ∈ items, ∃ label url, item.get "label" = .text label ∧
      item.get "url" = .text url) :
    written.write (.list items) =
      .ok (.list (items.map fun item =>
        .record [("label", item.get "label"), ("url", item.get "url")])) := by
  have each : ∀ item ∈ items,
      (Form.record [⟨"label", "label", .plain⟩, ⟨"url", "url", .plain⟩]).write item =
        .ok (.record [("label", item.get "label"), ("url", item.get "url")]) := by
    intro item member
    obtain ⟨label, url, labelled, linked⟩ := texts item member
    have there : item.isVacant = false := by
      cases item <;> first | rfl | (simp [Value.get] at labelled)
    simp [Form.record, Form.writeFields, Value.field, there, Form.plain, labelled, linked,
      Form.writtenField, Bind.bind, Except.bind, Pure.pure, Except.pure]
  simp only [written, Form.list, Value.items, mapM_eq_ok each, Bind.bind, Except.bind]
  rfl

namespace Layout

/-- The fields of a record on the wire, each with what is written for it. -/
def written (fields : List (String × String × Layout))
    (wire : String × String × Layout → Value) : List (String × Value) :=
  fields.flatMap fun field => Form.writtenField field.1 (wire field)

section
variable {fields : List (String × String × Layout)} {wire : String × String × Layout → Value}

theorem write_record {entity : Value} (there : entity.isVacant = false)
    (each : ∀ field ∈ fields,
      field.2.2.form.write (entity.get field.2.1) = .ok (wire field)) :
    (Form.record (formFields fields)).write entity = .ok (.record (written fields wire)) := by
  have all : Form.writeFields entity (formFields fields) = .ok (written fields wire) := by
    induction fields with
    | nil => rfl
    | cons head rest ih =>
      have found : entity.field head.2.1 = .ok (entity.get head.2.1) := by
        simp [Value.field, there]
      have others := ih fun field member => each field (by simp [member])
      simp only [formFields, Form.writeFields, found, each head (by simp), others, Bind.bind,
        Except.bind]
      rfl
  simp only [Form.record, all, Bind.bind, Except.bind]
  rfl

theorem write_list {ι : Type} {item : Layout} {items : List ι} {entity wire : ι → Value}
    (each : ∀ x ∈ items, item.form.write (entity x) = .ok (wire x)) :
    (Form.list item.form).write (.list (items.map entity)) = .ok (.list (items.map wire)) := by
  have all : (items.map entity).mapM item.form.write = .ok (items.map wire) := by
    rw [List.mapM_map]
    exact mapM_eq_ok each
  simp only [Form.list, Value.items, all, Bind.bind, Except.bind]
  rfl

theorem write_keyed {ι : Type} {item : Layout} {items : List ι} {entry : ι → Value × Value}
    {wire : ι → Value} {key : Value → Value} {collection : String}
    (each : ∀ x ∈ items, item.form.write (entry x).2 = .ok (wire x)) :
    (Keyed.form item.form key collection).write (.map (items.map entry)) =
      .ok (.list (items.map wire)) := by
  have values : (Value.map (items.map entry)).values = .ok (items.map fun x => (entry x).2) := by
    rw [Value.values, List.map_map]
    rfl
  simp only [Keyed.form, values, Bind.bind, Except.bind]
  exact write_list each

theorem lookup_written_of_not_mem {name : String} (unlisted : name ∉ fields.map (·.1)) :
    (written fields wire).lookup name = none := by
  induction fields with
  | nil => rfl
  | cons head rest ih =>
    simp only [List.map_cons, List.mem_cons, not_or] at unlisted
    have differs : (name == head.1) = false := beq_eq_false_iff_ne.mpr unlisted.1
    rw [written, List.flatMap_cons, List.lookup_append]
    rcases Form.writtenField_cases head.1 (wire head) with ⟨_, none⟩ | ⟨_, one⟩
    · rw [none]
      exact ih unlisted.2
    · rw [one, List.lookup_cons, differs]
      exact ih unlisted.2

/-- What is found under the name of a field is what was written for it, also where nothing was. -/
theorem get_written (distinct : (fields.map (·.1)).Nodup) {field : String × String × Layout}
    (member : field ∈ fields) : (Value.record (written fields wire)).get field.1 = wire field := by
  induction fields with
  | nil => contradiction
  | cons head rest ih =>
    simp only [List.map_cons, List.nodup_cons] at distinct
    rw [written, List.flatMap_cons, Value.get, List.lookup_append]
    rcases List.mem_cons.mp member with rfl | later
    · rcases Form.writtenField_cases field.1 (wire field) with ⟨absent, none⟩ | ⟨_, one⟩
      · rw [none, absent, List.lookup_nil, Option.none_or]
        exact congrArg (Option.getD · .absent) (lookup_written_of_not_mem distinct.1)
      · rw [one, List.lookup_cons_self]
        rfl
    · have differs : (field.1 == head.1) = false := beq_eq_false_iff_ne.mpr fun same =>
        distinct.1 (same ▸ List.mem_map_of_mem later)
      rcases Form.writtenField_cases head.1 (wire head) with ⟨_, none⟩ | ⟨_, one⟩
      · rw [none]
        exact ih distinct.2 later
      · rw [one, List.lookup_cons, differs]
        exact ih distinct.2 later

/-- Nothing that is written inherits anything. -/
theorem parentField_not_mem_written (distinct : soundNames fields = true) :
    Value.parentField ∉ (written fields wire).map Prod.fst := by
  intro member
  obtain ⟨entry, listed, same⟩ := List.mem_map.mp member
  obtain ⟨field, held, inside⟩ := List.mem_flatMap.mp listed
  rcases Form.writtenField_cases field.1 (wire field) with ⟨_, none⟩ | ⟨_, one⟩
  · rw [none] at inside
    contradiction
  · rw [one, List.mem_singleton] at inside
    rw [inside] at same
    exact (soundNames_iff.mp distinct).2.2 (same ▸ List.mem_map_of_mem held)

theorem seen_written (distinct : soundNames fields = true) {field : String × String × Layout}
    (member : field ∈ fields) :
    (Value.record (written fields wire)).seen field.1 = wire field := by
  rw [Value.seen_of_not_mem (parentField_not_mem_written distinct)]
  exact get_written (soundNames_iff.mp distinct).1 member

end
end Layout
end ChatGateway
