import ChatGateway.Proofs.Agreement
import ChatGateway.Proofs.Decoding

/-! What reading logs. `Layout.trace` lists the entries of a value by its layout; reading a copy
of any admitted value writes just these, in the order of the fields and of the items. -/
namespace ChatGateway

/-- The entry about bits without a name, if a number has such bits. -/
def FlagTable.trace (table : FlagTable) (v : Value) (context : Option Context) : List Entry :=
  let bits := (FlagSet.mk table v.natural).unknownBits
  if v.isVacant ∨ bits = 0 then [] else [.unknownFlagBits table.name bits context]

/-- The entry about a code that is there and not listed. -/
def Enumeration.trace (kinds : Enumeration) (v : Value) (context : Option Context) : List Entry :=
  if v.isVacant ∨ kinds.isKnown v then [] else [.unknownEnumValue kinds.name v context]

/-- The entries of list items after the items `before` them: those of an item come first, then one
about its key if an earlier item has the same. -/
def Keyed.trace (key : Value → String) (own : Value → List Entry) (duplicate : String → Entry)
    (before : List Value) : List Value → List Entry
  | [] => []
  | item :: rest =>
    own item ++ (if key item ∈ before.map key then [duplicate (key item)] else []) ++
      Keyed.trace key own duplicate (before ++ [item]) rest

def Atom.trace : Atom → Option Context → Value → List Entry
  | .flags table, context, v | .optionalFlags table, context, v => table.trace v context
  | .kind kinds, context, v | .optionalKind kinds, context, v => kinds.trace v context
  | _, _, _ => []

/-- The context in which what belongs to a user is read. -/
def Context.ofUser (v : Value) (context : Option Context) : Context :=
  Context.extend context [("userId", (v.seen "user").seen "id")]

namespace Layout

mutual

/-- The entries that reading a value writes. -/
def trace : Layout → Option Context → Value → List Entry
  | .atom a, context, v => a.trace context v
  | .record fields, context, v => traceFields fields context v
  | .part fields, context, v => if v.isVacant then [] else traceFields fields context v
  | .ofUser inner, context, v => inner.trace (some (Context.ofUser v context)) v
  | .list item, context, v | .optionalList item, context, v =>
    v.listed.flatMap fun x => item.trace context x
  | .keyed collection key item, context, v =>
    Keyed.trace (Value.keyText key) (fun x => item.trace context x)
      (fun name => .duplicateKey collection (.text name) context) [] v.listed

def traceFields : List (String × String × Layout) → Option Context → Value → List Entry
  | [], _, _ => []
  | (wireName, _, layout) :: rest, context, v =>
    layout.trace context (v.seen wireName) ++ traceFields rest context v

end

end Layout

theorem FlagTable.log_read {table : FlagTable} {v : Value} (count : v.IsCount)
    (context : Option Context) : (table.form.read v context).log = table.trace v context := by
  obtain ⟨n, safe, rfl⟩ := count
  have counted : (Value.ofNat n).number?.bind Number.count? = some n := Number.count?_ofNat safe
  have there : (Value.ofNat n).isVacant = false := rfl
  simp only [form, decode, counted, trace, there, Value.natural_ofNat safe, Traced.log_map]
  by_cases none : (FlagSet.mk table n).unknownBits = 0
  · simp [none]
  · simp [none]

theorem Enumeration.log_read {kinds : Enumeration} {field : String} {v : Value}
    (fits : Schema.number.Fits v) (context : Option Context) :
    ((kinds.form field).read v context).log = kinds.trace v context := by
  simp only [Schema.Fits] at fits
  obtain ⟨q, rfl, _⟩ := fits
  have there : ¬ (Value.number (.finite q)).isVacant = true := Bool.false_ne_true
  rw [form, Traced.log_map, trace]
  by_cases listed : .finite q ∈ kinds.known
  · rw [decode_of_mem listed, if_pos (.inr (isKnown_number_iff.mpr listed))]
    rfl
  · have unknown := mt isKnown_number_iff.mp listed
    rw [decode_of_not_mem listed, if_neg (not_or_intro there unknown)]

namespace Atom

theorem log_read {a : Atom} {v : Value} (admitted : Schema.Admits a.occurrence a.schema v)
    (context : Option Context) :
    (a.form.read (a.schema.copied v) context).log = a.trace context v := by
  by_cases listed : a = .buttons
  · subst listed
    rfl
  rw [copied_schema listed]
  cases a with
  | required leaf | optional leaf | switch => rfl
  | discriminator => rfl
  | optionalDiscriminator =>
    simp only [form, Discriminator.optionalForm]
    split <;> rfl
  | flags table => exact FlagTable.log_read (Schema.fits_count.mp admitted) context
  | optionalFlags table =>
    simp only [form, FlagTable.optionalForm, trace]
    split
    · rename_i vacant
      simp [FlagTable.trace, vacant]
    · rename_i there
      have count := Schema.fits_count.mp (admitted.resolve_left there)
      exact FlagTable.log_read count context
  | kind kinds => exact Enumeration.log_read admitted context
  | optionalKind kinds =>
    rcases admitted with rfl | fits
    · rfl
    · have there := Schema.not_vacant_of_fits fits
      simp only [form, Enumeration.optionalForm, Enumeration.decodeOptional, there]
      exact @Enumeration.log_read kinds "type" v fits context
  | buttons => contradiction
  | leaves leaf => rfl
  | optionalLeaves leaf => rfl

end Atom

theorem Traced.log_forEach {α β : Type} {f : α → Traced β} {g : α → β} {items : List α}
    (each : ∀ item ∈ items, (f item).outcome = .ok (g item)) :
    (forEach f items).log = items.flatMap fun item => (f item).log := by
  induction items with
  | nil => rfl
  | cons item rest ih =>
    simp only [List.forall_mem_cons] at each
    have others := Traced.outcome_forEach each.2
    rw [forEach, log_bind_of_ok each.1, log_bind_of_ok others, ih each.2, List.flatMap_cons,
      log_pure, List.append_nil]

namespace Keyed

theorem contains_insert_text (c : Keyed Value Value) (name other : String) (value : Value) :
    (c.insert (.text name) value).contains (.text other) =
      (c.contains (.text other) || name == other) := by
  rw [contains, keys_insert]
  split
  · rename_i taken
    by_cases same : name = other
    · subst same
      rw [beq_self_eq_true, Bool.or_true]
      exact taken
    · rw [beq_eq_false_iff_ne.mpr same, Bool.or_false]
      rfl
  · rw [List.any_append, List.any_cons, List.any_nil, Bool.or_false, Value.text_beq]
    rfl

section
variable {key : Value → String} {decodeItem : Value → Traced Value} {keyOf : Value → Value}
  {read : Value → Value} {own : Value → List Entry} {items : List Value}

/-- Reading into a collection that has the keys of the items before. -/
theorem log_decodeInto (each : ∀ item ∈ items, (decodeItem item).outcome = .ok (read item) ∧
      keyOf (read item) = .text (key item))
    (logged : ∀ item ∈ items, (decodeItem item).log = own item) (duplicate : Value → Entry)
    {before : List Value} {c : Keyed Value Value}
    (held : ∀ name, c.contains (.text name) = true ↔ name ∈ before.map key) :
    (decodeInto decodeItem keyOf duplicate c items).log =
      Keyed.trace key own (fun name => duplicate (.text name)) before items := by
  induction items generalizing c before with
  | nil => rfl
  | cons item rest ih =>
    simp only [List.forall_mem_cons] at each logged
    obtain ⟨⟨decoded, keyed⟩, each⟩ := each
    have after (name : String) : (c.insert (.text (key item)) (read item)).contains (.text name) =
        true ↔ name ∈ (before ++ [item]).map key := by
      rw [contains_insert_text, Bool.or_eq_true, held, List.map_append, List.mem_append,
        List.map_singleton, List.mem_singleton, beq_iff_eq, eq_comm]
    have later := ih each logged.2 after
    rw [decodeInto, Traced.log_bind_of_ok decoded, Keyed.trace, ← later, logged.1,
      List.append_assoc, keyed]
    congr 1
    by_cases taken : key item ∈ before.map key
    · rw [if_pos taken, if_pos ((held _).mpr taken)]
      rfl
    · rw [if_neg taken, if_neg (fun known => taken ((held _).mp known))]
      rfl

end
end Keyed

namespace Layout

theorem log_readRecord {fields : List (String × String × Layout)} {v copy : Value}
    (there : copy.isVacant = false) {context : Option Context}
    (each : ∀ field ∈ fields, (field.2.2.form.read (copy.get field.1) context).outcome =
      .ok (field.2.2.entity (v.seen field.1)))
    (logged : ∀ field ∈ fields, (field.2.2.form.read (copy.get field.1) context).log =
      field.2.2.trace context (v.seen field.1)) :
    ((Form.record (formFields fields)).read copy context).log = traceFields fields context v := by
  have read : (Form.readFields copy context (formFields fields)).outcome =
        .ok (entityFields fields v) ∧
      (Form.readFields copy context (formFields fields)).log = traceFields fields context v := by
    induction fields with
    | nil => exact ⟨rfl, rfl⟩
    | cons head rest ih =>
      simp only [List.forall_mem_cons] at each logged
      obtain ⟨others, rest⟩ := ih each.2 logged.2
      have found : copy.field head.1 = .ok (copy.get head.1) := by simp [Value.field, there]
      constructor
      · simp only [formFields, Form.readFields, found, Traced.outcome_bind, Traced.outcome_ofExcept,
          Except.bind, each.1, others]
        rfl
      · simp only [formFields, Form.readFields, found, Traced.ofExcept_ok_bind]
        rw [Traced.log_bind_of_ok each.1, Traced.log_bind_of_ok others, rest, logged.1,
          Traced.log_pure, List.append_nil, traceFields]
  simp only [Form.record]
  rw [Traced.log_bind_of_ok read.1, read.2, Traced.log_pure, List.append_nil]

/-- Reading the copy of a record, part by part. -/
theorem log_readCopied {fields : List (String × String × Layout)}
    (distinct : soundNames fields = true)
    {v : Value} (isRecord : v.isRecord = true) {context : Option Context}
    (each : ∀ field ∈ fields,
      (field.2.2.form.read (field.2.2.schema.copied (v.seen field.1)) context).outcome =
        .ok (field.2.2.entity (v.seen field.1)))
    (logged : ∀ field ∈ fields,
      (field.2.2.form.read (field.2.2.schema.copied (v.seen field.1)) context).log =
        field.2.2.trace context (v.seen field.1)) :
    ((Form.record (formFields fields)).read ((record fields).schema.copied v) context).log =
      traceFields fields context v := by
  apply log_readRecord (Schema.not_vacant_copied isRecord)
  · intro field member
    rw [get_copied distinct member]
    exact each field member
  · intro field member
    rw [get_copied distinct member]
    exact logged field member

theorem log_readList {item : Layout} {items : List Value} {context : Option Context}
    {copy : Value → Value}
    (each : ∀ x ∈ items, (item.form.read (copy x) context).outcome = .ok (item.entity x))
    (logged : ∀ x ∈ items, (item.form.read (copy x) context).log = item.trace context x) :
    ((Form.list item.form).read (.list (items.map copy)) context).log =
      items.flatMap fun x => item.trace context x := by
  have all := Traced.outcome_forEach each
  simp only [Form.list, Value.items, Traced.ofExcept_ok_bind, Traced.forEach_map]
  rw [Traced.log_bind_of_ok all, Traced.log_forEach each, Traced.log_pure, List.append_nil]
  exact List.flatMap_congr logged

/-- Reading into a collection, which starts without keys. -/
theorem log_readKeyed {collection : String} {key : List String} {item : Layout} {v copy : Value}
    {copyItem : Value → Value} {context : Option Context}
    (whole : copy.orElse (.list []) = .list (v.listed.map copyItem))
    (each : ∀ x ∈ v.listed, (item.form.read (copyItem x) context).outcome = .ok (item.entity x) ∧
      Value.follow key (item.entity x) = .text (Value.keyText key x))
    (logged : ∀ x ∈ v.listed, (item.form.read (copyItem x) context).log = item.trace context x) :
    ((Layout.keyed collection key item).form.read copy context).log =
      (Layout.keyed collection key item).trace context v := by
  obtain ⟨result, read, _⟩ :=
    Keyed.outcome_decode Value.text_beq each (Entry.duplicateKey collection · context)
  have nothing (name : String) : (Keyed.empty : Keyed Value Value).contains (.text name) = true ↔
      name ∈ ([] : List Value).map (Value.keyText key) := by
    simp [Keyed.contains, Keyed.keys, Keyed.empty]
  have written :=
    Keyed.log_decodeInto each logged (Entry.duplicateKey collection · context) nothing
  rw [form, Keyed.read_form whole, Keyed.decode_map, Traced.log_bind_of_ok read, Traced.log_pure,
    List.append_nil, trace]
  exact written

/-- Reading a copy of an admitted value writes the entries that its layout says. -/
theorem log_read {layout : Layout} (sound : layout.coherent = true) {v : Value}
    (admitted : layout.Admits v) (context : Option Context) :
    (layout.form.read (layout.schema.copied v) context).log = layout.trace context v := by
  induction layout generalizing v context with
  | atom a => exact Atom.log_read admitted context
  | record fields ofFields =>
    obtain ⟨isRecord, each⟩ := admits_record.mp admitted
    obtain ⟨distinct, sound⟩ := coherent_record.mp sound
    apply log_readCopied distinct isRecord
    · intro field member
      exact outcome_read (sound field member) (each field member) context
    · intro field member
      exact ofFields field member (sound field member) (each field member) context
  | part fields ofFields =>
    rcases admits_part.mp admitted with vacant | admitted
    · have missing : v.isMeaningful = false := by cases v <;> first | rfl | contradiction
      have same := Schema.copied_of_vacant (part fields).schema vacant
      simp only [form, Form.part, same, missing, trace, vacant]
      rfl
    · obtain ⟨isRecord, each⟩ := admits_record.mp admitted
      have there := Schema.not_vacant_of_isRecord isRecord
      obtain ⟨distinct, sound⟩ := coherent_record.mp (coherent_part.mp sound)
      simp only [form, Form.part, isMeaningful_copied isRecord, if_true, trace, there, schema_part]
      apply log_readCopied distinct isRecord
      · intro field member
        exact outcome_read (sound field member) (each field member) context
      · intro field member
        exact ofFields field member (sound field member) (each field member) context
  | ofUser inner ofInner =>
    obtain ⟨keyed, sound⟩ := coherent_ofUser.mp sound
    have admitted := admits_ofUser.mp admitted
    have fits := fits_of_admits (required_of_hasKey keyed) admitted
    obtain ⟨s, shown, _⟩ := follow_of_hasKey sound keyed fits
    have id := (follow_copied sound keyed v).trans shown
    have seen : (v.seen "user").seen "id" = .text s := shown
    simp only [form, schema, trace, Context.ofUser, seen, Value.field_of_follow id,
      Traced.ofExcept_ok_bind]
    exact ofInner sound admitted _
  | list item ofItem =>
    obtain ⟨items, rfl, each⟩ := admits_list.mp admitted
    have sound := (coherent_list.mp sound).2
    rw [schema, Schema.copied_list, trace]
    apply log_readList
    · intro x member
      exact outcome_read sound (admits_of_fits (each x member)) context
    · intro x member
      exact ofItem sound (admits_of_fits (each x member)) context
  | optionalList item ofItem =>
    obtain ⟨whole, each⟩ := listed_of_admits (admits_optionalList.mp admitted)
    have sound := (coherent_list.mp (coherent_optionalList.mp sound)).2
    change ((Form.list item.form).read
      (((optionalList item).schema.copied v).orElse (.list [])) context).log = _
    rw [schema, copied_orElse whole, trace]
    apply log_readList
    · intro x member
      exact outcome_read sound (admits_of_fits (each x member)) context
    · intro x member
      exact ofItem sound (admits_of_fits (each x member)) context
  | keyed collection key item ofItem =>
    obtain ⟨keyed, sound⟩ := coherent_keyed.mp sound
    obtain ⟨whole, fits⟩ := listed_of_admits (admits_keyed.mp admitted)
    rw [schema]
    apply log_readKeyed (copied_orElse whole)
    · intro x member
      obtain ⟨s, wire, _, own⟩ := follow_of_hasKey sound keyed (fits x member)
      refine ⟨outcome_read sound (admits_of_fits (fits x member)) context, ?_⟩
      rw [own, keyText_of_reach wire]
    · intro x member
      exact ofItem sound (admits_of_fits (fits x member)) context

end Layout
end ChatGateway
