import ChatGateway.Proofs.RoundTrip

/-! What writing refuses. A well-typed entity holds values of the right types, however large, odd or
unknown its numbers are. `Layout.refusals` lists what in it has no wire form, in the order of
writing; writing fails with the first of these, or gives `Layout.sent`. -/
namespace ChatGateway

/-- The first refusal, or the value where nothing is refused. -/
def settled {α : Type} : List EncodeError → α → Except Failure α
  | [], value => .ok value
  | first :: _, _ => .error (.encode first)

section
variable {α β : Type} {refusals : List EncodeError} {value : α}

theorem settled_bind {f : α → Except Failure β} {later : List EncodeError} {result : β}
    (next : f value = settled later result) :
    (settled refusals value).bind f = settled (refusals ++ later) result := by
  cases refusals with
  | nil => exact next
  | cons first rest => rfl

theorem settled_map (f : α → β) :
    (settled refusals value).map f = settled refusals (f value) := by
  cases refusals <;> rfl

theorem settled_eq_ok_iff {result : α} :
    settled refusals value = .ok result ↔ refusals = [] ∧ value = result := by
  cases refusals <;> simp [settled]

theorem settled_fails_iff :
    (∃ failure, settled refusals value = .error failure) ↔ refusals ≠ [] := by
  cases refusals <;> simp [settled]

theorem mapM_settled {f : α → Except Failure β} {refusals : α → List EncodeError} {g : α → β}
    {items : List α} (each : ∀ item ∈ items, f item = settled (refusals item) (g item)) :
    items.mapM f = settled (items.flatMap refusals) (items.map g) := by
  induction items with
  | nil => rfl
  | cons item rest ih =>
    have others := ih fun other member => each other (by simp [member])
    rw [List.mapM_cons, each item (by simp), others]
    exact settled_bind (settled_map (g item :: ·))

end

/-- The elements of a list or the values of a map. -/
def Value.contents : Value → List Value
  | .list items => items
  | .map entries => entries.map Prod.snd
  | _ => []

/-- What cannot be written of a value in the place of a variant. -/
def Enumeration.refusals (kinds : Enumeration) (field : String) (v : Value) : List EncodeError :=
  if kinds.isKnown v then []
  else [⟨field, kinds.name ++ " value " ++ v.inSentence?.getD "" ++ " has no wire code"⟩]

theorem Enumeration.encode_number (kinds : Enumeration) (field : String) (n : Number) :
    kinds.encode field (.number n) =
      settled (kinds.refusals field (.number n)) (.number n) := by
  rw [encode, refusals]
  split <;> rfl

namespace Discriminator

/-- The number that a value is, if it has four digits at most. -/
def small? (v : Value) : Option Nat :=
  (v.number?.bind Number.count?).filter (· ≤ 9999)

def refusals (field : String) (v : Value) : List EncodeError :=
  match small? v with
  | some _ => []
  | none => [⟨field, "Discriminator " ++ v.inSentence?.getD "" ++ " is outside 0-9999"⟩]

/-- What is written for a discriminator. A value that is none is kept. -/
def sent (v : Value) : Value :=
  match small? v with
  | some n => .text (fourDigits n)
  | none => v

theorem small?_ofNat {n : Nat} (small : n ≤ 9999) : small? (.ofNat n) = some n := by
  have safe : n ≤ Number.safeLimit := le_trans small (by decide)
  have counted : (Value.ofNat n).number?.bind Number.count? = some n := Number.count?_ofNat safe
  simp [small?, counted, small]

theorem eq_ofNat_of_small? {v : Value} {n : Nat} (found : small? v = some n) :
    n ≤ 9999 ∧ v = .ofNat n := by
  obtain ⟨counted, small⟩ := Option.filter_eq_some_iff.mp found
  obtain ⟨number, held, natural⟩ := Option.bind_eq_some_iff.mp counted
  refine ⟨of_decide_eq_true small, ?_⟩
  cases v with
  | number m =>
    obtain rfl := Option.some.inj held
    rw [(Number.count?_eq_some_iff.mp natural).1]
    rfl
  | _ => contradiction

theorem write_number (field : String) (n : Number) :
    (form field).write (.number n) =
      settled (refusals field (.number n)) (sent (.number n)) := by
  simp only [form, encode, refusals, sent, small?]
  generalize ((Value.number n).number?.bind Number.count?).filter (· ≤ 9999) = found
  cases found <;> rfl

end Discriminator

/-! ### Well-typed entities -/

def Leaf.Types : Leaf → Value → Prop
  | .free, v | .snowflake, v | .uri, v | .status, v => ∃ s, v = .text s
  | .boolean, v => ∃ b, v = .bool b
  | .count, v => ∃ n, v = .number n
  | .pair, v => ∃ a b, v = .list [.number a, .number b]

namespace Atom

/-- Any text, any number, any set of flags and any list of what a field is meant to hold; a value
that may be missing is absent then. -/
def Typed : Atom → Value → Prop
  | .required leaf, v => leaf.Types v
  | .optional leaf, v => v = .absent ∨ leaf.Types v
  | .switch, v => ∃ b, v = .bool b
  | .discriminator, v | .kind _, v | .optionalKind _, v => ∃ n, v = .number n
  | .optionalDiscriminator, v => v = .absent ∨ ∃ n, v = .number n
  | .flags _, v => ∃ set, v = .flags set
  | .optionalFlags _, v => v = .absent ∨ ∃ set, v = .flags set
  | .buttons, v => ∃ items, v = .list items ∧ ∀ item ∈ items,
      ∃ label url, item.get "label" = .text label ∧ item.get "url" = .text url
  | .leaves leaf, v | .optionalLeaves leaf, v =>
    ∃ items, v = .list items ∧ ∀ item ∈ items, leaf.Types item

def refusals : Atom → Value → List EncodeError
  | .kind kinds, v | .optionalKind kinds, v => kinds.refusals "type" v
  | .discriminator, v => Discriminator.refusals "discriminator" v
  | .optionalDiscriminator, .absent => []
  | .optionalDiscriminator, v => Discriminator.refusals "discriminator" v
  | _, _ => []

/-- What is written for a field. -/
def sent : Atom → Value → Value
  | .optional _, v => v.orElse .null
  | .discriminator, v | .optionalDiscriminator, v => Discriminator.sent v
  | .flags _, .flags set | .optionalFlags _, .flags set => .number set.toNumber
  | .optionalFlags _, _ => .null
  | .buttons, v => .list (v.contents.map ActivityButton.wire)
  | _, v => v

theorem write_typed {a : Atom} {v : Value} (typed : a.Typed v) :
    a.form.write v = settled (a.refusals v) (a.sent v) := by
  cases a with
  | required _ | switch | optional _ => rfl
  | kind kinds | optionalKind kinds =>
    obtain ⟨n, rfl⟩ := typed
    exact kinds.encode_number "type" n
  | discriminator =>
    obtain ⟨n, rfl⟩ := typed
    exact Discriminator.write_number "discriminator" n
  | optionalDiscriminator =>
    rcases typed with rfl | ⟨n, rfl⟩
    · rfl
    · exact Discriminator.write_number "discriminator" n
  | flags table =>
    obtain ⟨set, rfl⟩ := typed
    rfl
  | optionalFlags table =>
    rcases typed with rfl | ⟨set, rfl⟩ <;> rfl
  | buttons =>
    obtain ⟨items, rfl, texts⟩ := typed
    exact ActivityButton.write_texts texts
  | leaves leaf | optionalLeaves leaf =>
    obtain ⟨items, rfl, _⟩ := typed
    rfl

end Atom

namespace Layout

mutual

/-- The entity has a value of the right type in each of its fields, at any depth. It may have more
fields, and a map any keys. -/
def Typed : Layout → Value → Prop
  | .atom a, v => a.Typed v
  | .record fields, v => v.isRecord = true ∧ FieldsTyped fields v
  | .part fields, v => v = .absent ∨ v.isRecord = true ∧ FieldsTyped fields v
  | .ofUser inner, v => inner.Typed v
  | .list item, v | .optionalList item, v => ∃ items, v = .list items ∧ ∀ x ∈ items, item.Typed x
  | .keyed _ _ item, v => ∃ entries, v = .map entries ∧ ∀ entry ∈ entries, item.Typed entry.2

def FieldsTyped : List (String × String × Layout) → Value → Prop
  | [], _ => True
  | (_, name, layout) :: rest, v => layout.Typed (v.get name) ∧ FieldsTyped rest v

end

mutual

/-- All that cannot be written of an entity, in the order of writing. -/
def refusals : Layout → Value → List EncodeError
  | .atom a, v => a.refusals v
  | .record fields, v => fieldRefusals fields v
  | .part fields, v => if v.isMeaningful then fieldRefusals fields v else []
  | .ofUser inner, v => inner.refusals v
  | .list item, v | .optionalList item, v | .keyed _ _ item, v =>
    v.contents.flatMap fun x => item.refusals x

def fieldRefusals : List (String × String × Layout) → Value → List EncodeError
  | [], _ => []
  | (_, name, layout) :: rest, v => layout.refusals (v.get name) ++ fieldRefusals rest v

end

mutual

/-- What is written for an entity. -/
def sent : Layout → Value → Value
  | .atom a, v => a.sent v
  | .record fields, v => .record (fieldsSent fields v)
  | .part fields, v => if v.isMeaningful then .record (fieldsSent fields v) else .null
  | .ofUser inner, v => inner.sent v
  | .list item, v | .optionalList item, v | .keyed _ _ item, v =>
    .list (v.contents.map fun x => item.sent x)

def fieldsSent : List (String × String × Layout) → Value → List (String × Value)
  | [], _ => []
  | (wireName, name, layout) :: rest, v =>
    Form.writtenField wireName (layout.sent (v.get name)) ++ fieldsSent rest v

end

theorem fieldsTyped_iff {fields : List (String × String × Layout)} {v : Value} :
    FieldsTyped fields v ↔ ∀ field ∈ fields, field.2.2.Typed (v.get field.2.1) := by
  induction fields with
  | nil => simp [FieldsTyped]
  | cons head rest ih => simp [FieldsTyped, ih]

theorem fieldsSent_eq_written {fields : List (String × String × Layout)} {v : Value} :
    fieldsSent fields v = written fields fun field => field.2.2.sent (v.get field.2.1) := by
  induction fields with
  | nil => rfl
  | cons head rest ih => rw [fieldsSent, ih, written, written, List.flatMap_cons]

theorem get_sent {fields : List (String × String × Layout)} {field : String × String × Layout}
    (distinct : soundNames fields = true) (member : field ∈ fields) (v : Value) :
    ((record fields).sent v).get field.1 = field.2.2.sent (v.get field.2.1) := by
  rw [sent, fieldsSent_eq_written, get_written (soundNames_iff.mp distinct).1 member]

theorem write_fields_typed {fields : List (String × String × Layout)} {v : Value}
    (there : v.isVacant = false)
    (each : ∀ field ∈ fields, field.2.2.form.write (v.get field.2.1) =
      settled (field.2.2.refusals (v.get field.2.1)) (field.2.2.sent (v.get field.2.1))) :
    (Form.record (formFields fields)).write v =
      settled (fieldRefusals fields v) (.record (fieldsSent fields v)) := by
  have all : Form.writeFields v (formFields fields) =
      settled (fieldRefusals fields v) (fieldsSent fields v) := by
    induction fields with
    | nil => rfl
    | cons head rest ih =>
      have found : v.field head.2.1 = .ok (v.get head.2.1) := by simp [Value.field, there]
      have others := ih fun field member => each field (by simp [member])
      have first := each head (by simp)
      simp only [formFields, Form.writeFields, found, Bind.bind, Except.bind, first, others]
      exact settled_bind (settled_map _)
  simp only [Form.record, all]
  exact settled_map Value.record

/-- A well-typed entity is written, unless something is refused; then the first refusal is why. -/
theorem write_typed {layout : Layout} {v : Value} (typed : layout.Typed v) :
    layout.form.write v = settled (layout.refusals v) (layout.sent v) := by
  induction layout generalizing v with
  | atom a => exact Atom.write_typed typed
  | record fields ofFields =>
    simp only [Typed, fieldsTyped_iff] at typed
    exact write_fields_typed (Schema.not_vacant_of_isRecord typed.1) fun field member =>
      ofFields field member (typed.2 field member)
  | part fields ofFields =>
    simp only [Typed, fieldsTyped_iff] at typed
    rcases typed with rfl | ⟨isRecord, each⟩
    · rfl
    · have meaningful : v.isMeaningful = true := by
        cases v <;> first | rfl | contradiction
      simp only [form, Form.part, refusals, sent, meaningful, if_true]
      exact write_fields_typed (Schema.not_vacant_of_isRecord isRecord) fun field member =>
        ofFields field member (each field member)
  | ofUser inner ofInner => exact ofInner (by simpa only [Typed] using typed)
  | list item ofItem | optionalList item ofItem =>
    simp only [Typed] at typed
    obtain ⟨items, rfl, each⟩ := typed
    have all := mapM_settled fun x member => ofItem (each x member)
    simp only [form, Form.list, Form.orElse, Value.items, Bind.bind, Except.bind, refusals, sent,
      Value.contents, all]
    exact settled_map Value.list
  | keyed collection key item ofItem =>
    simp only [Typed] at typed
    obtain ⟨entries, rfl, each⟩ := typed
    have all := mapM_settled (List.forall_mem_map.mpr fun entry member =>
      ofItem (each entry member))
    simp only [form, Keyed.form, Value.values, Bind.bind, Except.bind, refusals, sent,
      Value.contents, all]
    exact settled_map Value.list

end Layout
end ChatGateway
