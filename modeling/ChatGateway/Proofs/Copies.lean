import ChatGateway.Proofs.Json

/-! Copies that the checker makes of records. What a copy holds under a name is what is seen of the
record that it was made of, and where no record has the field that makes copies inherit a copy is
the value itself. -/
namespace ChatGateway

namespace Value

/-- Some record in the value has the field that makes copies of it inherit. -/
inductive NamesParent : Value → Prop
  | here {fields : List (String × Value)} :
      parentField ∈ fields.map Prod.fst → NamesParent (.record fields)
  | field {fields : List (String × Value)} {entry : String × Value} :
      entry ∈ fields → NamesParent entry.2 → NamesParent (.record fields)
  | item {items : List Value} {item : Value} :
      item ∈ items → NamesParent item → NamesParent (.list items)

@[simp]
theorem not_namesParent_absent : ¬ absent.NamesParent := nofun

@[simp]
theorem not_namesParent_null : ¬ null.NamesParent := nofun

@[simp]
theorem not_namesParent_bool {b : Bool} : ¬ (bool b).NamesParent := nofun

@[simp]
theorem not_namesParent_number {n : Number} : ¬ (number n).NamesParent := nofun

@[simp]
theorem not_namesParent_text {s : String} : ¬ (text s).NamesParent := nofun

@[simp]
theorem namesParent_record {fields : List (String × Value)} : (record fields).NamesParent ↔
    parentField ∈ fields.map Prod.fst ∨ ∃ entry ∈ fields, entry.2.NamesParent := by
  constructor
  · rintro (listed | ⟨member, inside⟩)
    · exact .inl listed
    · exact .inr ⟨_, member, inside⟩
  · rintro (listed | ⟨entry, member, inside⟩)
    · exact .here listed
    · exact .field member inside

@[simp]
theorem namesParent_list {items : List Value} :
    (list items).NamesParent ↔ ∃ item ∈ items, item.NamesParent := by
  constructor
  · rintro (_ | _ | ⟨member, inside⟩)
    exact ⟨_, member, inside⟩
  · rintro ⟨item, member, inside⟩
    exact .item member inside

theorem lookup_of_not_mem {fields : List (String × Value)} {name : String}
    (unlisted : name ∉ fields.map Prod.fst) : fields.lookup name = none := by
  rw [List.lookup_eq_none_iff]
  intro entry member
  exact bne_iff_ne.mpr fun same => unlisted (same ▸ List.mem_map_of_mem member)

theorem get_record_of_not_mem {fields : List (String × Value)} {name : String}
    (unlisted : name ∉ fields.map Prod.fst) : (Value.record fields).get name = .absent := by
  rw [get, lookup_of_not_mem unlisted]
  rfl

theorem lent_record (fields : List (String × Value)) (name : String) :
    (Value.record fields).lent name = (Value.record fields).get name := rfl

/-- What a record has of its own is seen. -/
theorem seen_of_get {v : Value} {name : String} (own : v.get name ≠ .absent) :
    v.seen name = v.get name := by
  cases v with
  | record fields =>
    cases found : fields.lookup name with
    | some held => simp only [seen, get, found, Option.getD_some]
    | none => exact absurd (by rw [get, found, Option.getD_none]) own
  | _ => rfl

/-- Where nothing is inherited only what a record has of its own is seen. -/
theorem seen_of_orphan {v : Value} (orphan : v.get parentField = .absent) (name : String) :
    v.seen name = v.get name := by
  cases v with
  | record fields =>
    rw [seen, orphan, get]
    cases fields.lookup name <;> rfl
  | _ => rfl

theorem seen_of_not_mem {fields : List (String × Value)}
    (unlisted : parentField ∉ fields.map Prod.fst) (name : String) :
    (Value.record fields).seen name = (Value.record fields).get name :=
  seen_of_orphan (get_record_of_not_mem unlisted) name

theorem seen_of_plain {v : Value} (plain : ¬ v.NamesParent) (name : String) :
    v.seen name = v.get name := by
  cases v with
  | record fields => exact seen_of_not_mem (fun listed => plain (.here listed)) name
  | _ => rfl

theorem not_namesParent_get {fields : List (String × Value)}
    (plain : ¬ (record fields).NamesParent) (name : String) :
    ¬ ((record fields).get name).NamesParent := by
  cases found : fields.lookup name with
  | none =>
    rw [get, found]
    exact not_namesParent_absent
  | some held =>
    rw [get, found]
    exact fun inside => plain (.field (Fields.mem_of_lookup found) inside)

theorem not_namesParent_item {items : List Value} (plain : ¬ (Value.list items).NamesParent) :
    ∀ item ∈ items, ¬ item.NamesParent :=
  fun _ member inside => plain (.item member inside)

theorem isRecord_copyWith (v : Value) (updates : List (String × Value)) :
    (v.copyWith updates).isRecord = v.isRecord := by
  cases v <;> rfl

/-- Only records are changed by copying them. -/
theorem copyWith_eq_iff {v w : Value} (flat : w.isRecord = false)
    {updates : List (String × Value)} : v.copyWith updates = w ↔ v = w := by
  cases v with
  | record own | error name message stack own =>
    constructor <;> (rintro rfl; contradiction)
  | _ => rfl

end Value

namespace Fields

theorem lookup_filter_ne {κ α : Type} [BEq κ] [LawfulBEq κ] (fields : List (κ × α))
    {name other : κ} (differs : name ≠ other) :
    (fields.filter (·.1 != other)).lookup name = fields.lookup name := by
  induction fields with
  | nil => rfl
  | cons head rest ih =>
    obtain ⟨first, value⟩ := head
    by_cases same : first = other
    · have unlike : (name == other) = false := beq_eq_false_iff_ne.mpr differs
      rw [List.filter_cons_of_neg (by simpa using same), ih, List.lookup_cons, same, unlike]
    · rw [List.filter_cons_of_pos (by simpa using same), List.lookup_cons, List.lookup_cons, ih]

end Fields

namespace Schema

section
variable {fields : List (String × Occurrence × Schema)} {v : Value}

/-- Values without parts are handed on as they are, and nothing else becomes one of them. -/
theorem copied_eq_iff {shape : Schema} {w : Value} (flat : w.isRecord = false)
    (single : ∀ items, w ≠ .list items) : shape.copied v = w ↔ v = w := by
  induction shape with
  | record fields _ => rw [copied, Value.copyWith_eq_iff flat]
  | list item _ =>
    cases v with
    | list items =>
      rw [copied]
      exact ⟨fun same => absurd same.symm (single _), fun same => absurd same.symm (single _)⟩
    | _ => simp only [copied]
  | either first second ofFirst ofSecond =>
    rw [copied]
    split
    · exact ofFirst
    · exact ofSecond
  | _ => simp only [copied]

theorem copied_absent (shape : Schema) : shape.copied .absent = .absent :=
  (copied_eq_iff rfl fun _ => Value.noConfusion).mpr rfl

theorem copied_null (shape : Schema) : shape.copied .null = .null :=
  (copied_eq_iff rfl fun _ => Value.noConfusion).mpr rfl

theorem copied_of_vacant (shape : Schema) (vacant : v.isVacant = true) : shape.copied v = v := by
  cases v with
  | absent => exact copied_absent shape
  | null => exact copied_null shape
  | _ => contradiction

theorem copied_number (shape : Schema) (n : Number) : shape.copied (.number n) = .number n :=
  (copied_eq_iff rfl fun _ => Value.noConfusion).mpr rfl

theorem copied_text (shape : Schema) (s : String) : shape.copied (.text s) = .text s :=
  (copied_eq_iff rfl fun _ => Value.noConfusion).mpr rfl

/-- A copy is missing if the value is. -/
theorem isVacant_copied {shape : Schema} : (shape.copied v).isVacant = v.isVacant := by
  have absent : shape.copied v = .absent ↔ v = .absent := copied_eq_iff rfl fun _ => nofun
  have null : shape.copied v = .null ↔ v = .null := copied_eq_iff rfl fun _ => nofun
  have vacant (v : Value) : v.isVacant = true ↔ v = .absent ∨ v = .null := by
    cases v <;> simp [Value.isVacant]
  rw [Bool.eq_iff_iff, vacant, vacant, absent, null]

theorem not_vacant_copied {shape : Schema} (isRecord : v.isRecord = true) :
    (shape.copied v).isVacant = false :=
  isVacant_copied.trans (not_vacant_of_isRecord isRecord)

theorem copied_list (item : Schema) (items : List Value) :
    (Schema.list item).copied (.list items) = .list (items.map fun x => item.copied x) := by
  rw [copied]

theorem keys_copiedFields : ((copiedFields fields v).map Prod.fst).Sublist (fields.map (·.1)) := by
  induction fields with
  | nil => exact List.Sublist.slnil
  | cons head rest ih =>
    unfold copiedFields
    split
    · exact ih.cons _
    · exact ih.cons_cons _

theorem mem_copiedFields {field : String × Occurrence × Schema} (member : field ∈ fields)
    (there : v.seen field.1 ≠ .absent) :
    (field.1, field.2.2.copied (v.seen field.1)) ∈ copiedFields fields v := by
  induction fields with
  | nil => contradiction
  | cons head rest ih =>
    obtain ⟨name, occurrence, shape⟩ := head
    unfold copiedFields
    rcases List.mem_cons.mp member with rfl | later
    · split
      · contradiction
      · exact List.mem_cons_self
    · split
      · exact ih later
      · exact List.mem_cons_of_mem _ (ih later)

theorem exists_of_mem_copiedFields {entry : String × Value}
    (member : entry ∈ copiedFields fields v) :
    ∃ field ∈ fields, v.seen field.1 ≠ .absent ∧
      entry = (field.1, field.2.2.copied (v.seen field.1)) := by
  induction fields with
  | nil => contradiction
  | cons head rest ih =>
    have later (member : entry ∈ copiedFields rest v) : ∃ field ∈ head :: rest,
        v.seen field.1 ≠ .absent ∧ entry = (field.1, field.2.2.copied (v.seen field.1)) := by
      obtain ⟨field, listed, held⟩ := ih member
      exact ⟨field, List.mem_cons_of_mem _ listed, held⟩
    obtain ⟨name, occurrence, shape⟩ := head
    unfold copiedFields at member
    split at member
    · exact later member
    · rename_i there
      rcases List.mem_cons.mp member with rfl | member
      · exact ⟨_, List.mem_cons_self, there, rfl⟩
      · exact later member

section
variable {field : String × Occurrence × Schema}

theorem lookup_copiedFields (distinct : (fields.map (·.1)).Nodup) (member : field ∈ fields)
    (there : v.seen field.1 ≠ .absent) : (copiedFields fields v).reverse.lookup field.1 =
      some (field.2.2.copied (v.seen field.1)) := by
  have keys : ((copiedFields fields v).reverse.map Prod.fst).Nodup := by
    rw [List.map_reverse, List.nodup_reverse]
    exact keys_copiedFields.nodup distinct
  exact Fields.lookup_of_mem keys (List.mem_reverse.mpr (mem_copiedFields member there))

theorem lookup_copiedFields_of_absent {name : String} (missing : v.seen name = .absent) :
    (copiedFields fields v).reverse.lookup name = none := by
  apply Value.lookup_of_not_mem
  rw [List.map_reverse, List.mem_reverse]
  intro found
  obtain ⟨entry, held, same⟩ := List.mem_map.mp found
  obtain ⟨other, _, there, rfl⟩ := exists_of_mem_copiedFields held
  rw [same] at there
  exact there missing

/-- A field that is not seen is not there, and not among what a copy takes over. -/
theorem lookup_kept_of_absent {own : List (String × Value)} {name : String}
    (missing : (Value.record own).seen name = .absent) :
    ((own.filter (·.1 != Value.parentField)).lookup name).getD .absent = .absent := by
  by_cases parent : name = Value.parentField
  · rw [Value.lookup_of_not_mem (by simp [parent])]
    rfl
  · rw [Fields.lookup_filter_ne _ parent]
    rw [Value.seen] at missing
    cases found : own.lookup name with
    | none => rfl
    | some held =>
      rw [found] at missing
      exact missing

/-- A copy holds copies of what is seen under the listed names. -/
theorem get_copied (distinct : (fields.map (·.1)).Nodup) (member : field ∈ fields) :
    ((Schema.record fields).copied v).get field.1 = field.2.2.copied (v.seen field.1) := by
  rw [copied]
  cases v with
  | record own =>
    rw [Value.copyWith, Value.get, Fields.lookup_setAll]
    by_cases missing : (Value.record own).seen field.1 = .absent
    · rw [lookup_copiedFields_of_absent missing, Option.none_or, missing, copied_absent]
      exact lookup_kept_of_absent missing
    · rw [lookup_copiedFields distinct member missing]
      rfl
  | error name message stack own =>
    rw [Value.copyWith, Value.get, Fields.lookup_setAll]
    by_cases missing : (Value.error name message stack own).seen field.1 = .absent
    · rw [lookup_copiedFields_of_absent missing, Option.none_or, missing, copied_absent]
      exact missing
    · rw [lookup_copiedFields distinct member missing]
      rfl
  | map entries =>
    change (Value.map entries).get field.1 = field.2.2.copied ((Value.map entries).get field.1)
    by_cases size : field.1 = "size"
    · rw [size]
      exact (copied_number _ _).symm
    · rw [Value.get, if_neg size]
      exact (copied_absent _).symm
  | _ => exact (copied_absent _).symm

end

theorem isRecord_copied {shape : Schema} : (shape.copied v).isRecord = v.isRecord := by
  induction shape with
  | record fields _ => rw [copied, Value.isRecord_copyWith]
  | list item _ =>
    cases v with
    | list items => rw [copied_list, Value.isRecord, Value.isRecord] <;> simp
    | _ => simp only [copied]
  | either first second ofFirst ofSecond =>
    simp only [copied]
    split
    · exact ofFirst
    · exact ofSecond
  | _ => simp only [copied]

/-- Where no record has the field that makes copies inherit the copy is the value itself. -/
theorem copied_of_plain {shape : Schema} (given : v.IsPayload) (plain : ¬ v.NamesParent) :
    shape.copied v = v := by
  induction shape generalizing v with
  | record fields ofFields =>
    rw [copied]
    cases v with
    | record own =>
      have none : own.filter (·.1 != Value.parentField) = own := by
        rw [List.filter_eq_self]
        intro entry member
        rw [bne_iff_ne]
        exact fun same => plain (.here (same ▸ List.mem_map_of_mem member))
      rw [Value.copyWith, none, Fields.setAll_of_lookup]
      intro entry member
      obtain ⟨field, listed, there, rfl⟩ := exists_of_mem_copiedFields member
      have same := Value.seen_of_plain plain field.1
      rw [same] at there ⊢
      rw [ofFields field listed (Value.isPayload_get given _) (Value.not_namesParent_get plain _)]
      rw [Value.get] at there ⊢
      cases found : own.lookup field.1 with
      | none =>
        rw [found] at there
        exact absurd rfl there
      | some held => rfl
    | error =>
      rcases given with missing | json
      · contradiction
      · cases json
    | _ => rfl
  | list item ofItem =>
    cases v with
    | list items =>
      rw [copied_list]
      congr 1
      refine (List.map_congr_left fun x member => ?_).trans (List.map_id _)
      exact ofItem (Value.isPayload_items given x member)
        (Value.not_namesParent_item plain x member)
    | _ => simp only [copied]
  | either first second ofFirst ofSecond =>
    simp only [copied, ofFirst given plain, ofSecond given plain, ite_self]
  | _ => simp only [copied]

end
end Schema
end ChatGateway
