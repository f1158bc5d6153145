import ChatGateway.Proofs.Json
import ChatGateway.Proofs.Reading

/-! Values that a schema cannot tell apart. They agree wherever the schema looks: they are of one
kind, and their parts that the schema names agree in turn. The checker finds the same problems in
both, apart from the values that it shows, and what passes the check is read alike. -/
namespace ChatGateway

namespace Value

/-- The values are equal, or both are records, or both are lists. -/
inductive Alike : Value → Value → Prop
  | refl (v : Value) : Alike v v
  | record (xs ys : List (String × Value)) : Alike (.record xs) (.record ys)
  | list (xs ys : List Value) : Alike (.list xs) (.list ys)

theorem Alike.trans {u v w : Value} (first : u.Alike v) (second : v.Alike w) : u.Alike w := by
  cases first with
  | refl => exact second
  | record =>
    cases second with
    | refl => exact .record ..
    | record => exact .record ..
  | list =>
    cases second with
    | refl => exact .list ..
    | list => exact .list ..

end Value

namespace Schema

mutual

/-- The values look the same to all that follow the schema. -/
def Agrees : Schema → Value → Value → Prop
  | .pair, v, w => v.Alike w ∧ List.Forall₂ Value.Alike v.listed w.listed
  | .record fields, v, w => v.Alike w ∧ FieldsAgree fields v w
  | .list item, v, w => v.Alike w ∧ List.Forall₂ (fun x y => item.Agrees x y) v.listed w.listed
  | .either first second, v, w => first.Agrees v w ∧ second.Agrees v w
  | _, v, w => v.Alike w

def FieldsAgree : List (String × Occurrence × Schema) → Value → Value → Prop
  | [], _, _ => True
  | (name, _, shape) :: rest, v, w =>
    shape.Agrees (v.seen name) (w.seen name) ∧ FieldsAgree rest v w

end

theorem fieldsAgree_iff {fields : List (String × Occurrence × Schema)} {v w : Value} :
    FieldsAgree fields v w ↔
      ∀ field ∈ fields, field.2.2.Agrees (v.seen field.1) (w.seen field.1) := by
  induction fields with
  | nil => simp [FieldsAgree]
  | cons head rest ih => simp [FieldsAgree, ih]

theorem Agrees.alike {shape : Schema} {v w : Value} (agrees : shape.Agrees v w) : v.Alike w := by
  induction shape with
  | pair | record | list =>
    simp only [Agrees] at agrees
    exact agrees.1
  | either first second ofFirst _ =>
    simp only [Agrees] at agrees
    exact ofFirst agrees.1
  | _ => simpa only [Agrees] using agrees

theorem Agrees.refl (shape : Schema) (v : Value) : shape.Agrees v v := by
  induction shape generalizing v with
  | pair =>
    simp only [Agrees]
    exact ⟨.refl v, List.forall₂_same.mpr fun x _ => .refl x⟩
  | record fields ofFields =>
    simp only [Agrees, fieldsAgree_iff]
    exact ⟨.refl v, fun field member => ofFields field member _⟩
  | list item ofItem =>
    simp only [Agrees]
    exact ⟨.refl v, List.forall₂_same.mpr fun x _ => ofItem x⟩
  | either first second ofFirst ofSecond =>
    simp only [Agrees]
    exact ⟨ofFirst v, ofSecond v⟩
  | _ =>
    simp only [Agrees]
    exact .refl v

theorem forall₂_trans {α : Type} {r : α → α → Prop} (step : ∀ x y z, r x y → r y z → r x z)
    {xs ys zs : List α} (first : List.Forall₂ r xs ys) (second : List.Forall₂ r ys zs) :
    List.Forall₂ r xs zs := by
  induction first generalizing zs with
  | nil =>
    cases second
    exact .nil
  | cons head _ ih =>
    cases second with
    | cons next rest => exact .cons (step _ _ _ head next) (ih rest)

theorem Agrees.trans {shape : Schema} {u v w : Value} (first : shape.Agrees u v)
    (second : shape.Agrees v w) : shape.Agrees u w := by
  induction shape generalizing u v w with
  | pair =>
    simp only [Agrees] at *
    exact ⟨first.1.trans second.1, forall₂_trans (fun _ _ _ => .trans) first.2 second.2⟩
  | record fields ofFields =>
    simp only [Agrees, fieldsAgree_iff] at *
    exact ⟨first.1.trans second.1, fun field member =>
      ofFields field member (first.2 field member) (second.2 field member)⟩
  | list item ofItem =>
    simp only [Agrees] at *
    have step : ∀ x y z, item.Agrees x y → item.Agrees y z → item.Agrees x z :=
      fun _ _ _ => ofItem
    exact ⟨first.1.trans second.1, forall₂_trans step first.2 second.2⟩
  | either one other ofOne ofOther =>
    simp only [Agrees] at *
    exact ⟨ofOne first.1 second.1, ofOther first.2 second.2⟩
  | _ =>
    simp only [Agrees] at *
    exact first.trans second

end Schema

/-! ### Problems -/

/-- A finding without the value that it shows. -/
def Finding.bare (finding : Finding) : Finding :=
  { finding with value := .absent }

namespace Schema

/-- The checks of simple values look at the kind of a value before they look into it. -/
theorem check_alike {v w : Value} (alike : v.Alike w) (form : TextForm) (nullable : Bool) :
    form.check nullable v = form.check nullable w := by
  cases alike with
  | refl => rfl
  | _ => cases form <;> rfl

theorem checkNumber_alike {v w : Value} (alike : v.Alike w) : checkNumber v = checkNumber w := by
  cases alike <;> rfl

theorem checkCount_alike {v w : Value} (alike : v.Alike w) : checkCount v = checkCount w := by
  cases alike <;> rfl

theorem placed_bare (path : Path) (v w : Value) (violations : List Violation) :
    (placed path v violations).map Finding.bare = (placed path w violations).map Finding.bare := by
  simp only [placed, List.map_map]
  rfl

theorem pairFindings_bare {path : Path} {v w : Value} {lacking position : Nat}
    {xs ys : List Value} (each : List.Forall₂ Value.Alike xs ys) :
    (pairFindings path v lacking position xs).map Finding.bare =
      (pairFindings path w lacking position ys).map Finding.bare := by
  induction each generalizing lacking position with
  | nil => cases lacking <;> rfl
  | @cons x y xs ys alike _ ih =>
    -- A hole is reported before it counts whether items are lacking.
    by_cases hole : x = .absent
    · subst hole
      cases alike
      simp only [pairFindings, List.map_cons, ih]
    · have there : y ≠ .absent := by
        cases alike with
        | refl => exact hole
        | _ => exact Value.noConfusion
      cases lacking with
      | zero => cases x <;> cases y <;> first | rfl | contradiction
      | succ lacking =>
        have own (z : Value) (zs : List Value) (whole : Value) (present : z ≠ .absent) :
            pairFindings path whole (lacking + 1) position (z :: zs) =
              placed (path.item position) z (checkCount z) ++
                pairFindings path whole lacking (position + 1) zs := by
          cases z <;> first | rfl | contradiction
        rw [own x xs v hole, own y ys w there, List.map_append, List.map_append, ih,
          checkCount_alike alike, placed_bare _ x y]

theorem itemFindings_bare {path : Path} {check : Path → Value → List Finding} {position : Nat}
    {xs ys : List Value} {r : Value → Value → Prop} (each : List.Forall₂ r xs ys)
    (alike : ∀ x y, r x y → x.Alike y)
    (ofItem : ∀ path x y, r x y →
      (check path x).map Finding.bare = (check path y).map Finding.bare) :
    (itemFindings path check position xs).map Finding.bare =
      (itemFindings path check position ys).map Finding.bare := by
  induction each generalizing position with
  | nil => rfl
  | @cons x y xs ys related _ ih =>
    have same := ofItem (path.item position) x y related
    simp only [itemFindings, List.map_append, ih]
    congr 1
    cases alike x y related with
    | refl => rfl
    | _ => exact same

theorem fieldProblems_bare {fields : List (String × Occurrence × Schema)} {path : Path}
    {v w : Value} (alike : ∀ field ∈ fields, (v.seen field.1).Alike (w.seen field.1))
    (ofField : ∀ field ∈ fields, ∀ nullable path,
      (field.2.2.problems nullable path (v.seen field.1)).map Finding.bare =
        (field.2.2.problems nullable path (w.seen field.1)).map Finding.bare) :
    (fieldProblems fields path v).map Finding.bare =
      (fieldProblems fields path w).map Finding.bare := by
  induction fields with
  | nil => rfl
  | cons head rest ih =>
    obtain ⟨name, occurrence, shape⟩ := head
    have own := ofField (name, occurrence, shape) (by simp)
    have kinds := alike (name, occurrence, shape) (by simp)
    have others := ih (fun field member => alike field (by simp [member]))
      fun field member => ofField field (by simp [member])
    simp only [fieldProblems, List.map_append, others]
    congr 1
    simp only at own kinds
    -- Whether the field is missing shows in the kind of its value.
    revert own
    generalize v.seen name = x at kinds
    generalize w.seen name = y at kinds
    intro own
    cases kinds with
    | refl => rfl
    | _ => cases occurrence <;> exact own _ _

theorem problems_bare {shape : Schema} {nullable : Bool} {path : Path} {v w : Value}
    (agrees : shape.Agrees v w) : (shape.problems nullable path v).map Finding.bare =
      (shape.problems nullable path w).map Finding.bare := by
  induction shape generalizing nullable path v w with
  | text form =>
    simp only [problems, check_alike agrees.alike form]
    exact placed_bare ..
  | number =>
    simp only [problems, checkNumber_alike agrees.alike]
    exact placed_bare ..
  | count =>
    simp only [problems, checkCount_alike agrees.alike]
    exact placed_bare ..
  | boolean =>
    cases agrees.alike <;> rfl
  | pair =>
    simp only [Agrees] at agrees
    obtain ⟨alike, each⟩ := agrees
    cases alike with
    | list => exact pairFindings_bare each
    | _ => rfl
  | record fields ofFields =>
    simp only [Agrees, fieldsAgree_iff] at agrees
    obtain ⟨alike, each⟩ := agrees
    have inside : (fieldProblems fields path v).map Finding.bare =
        (fieldProblems fields path w).map Finding.bare :=
      fieldProblems_bare (fun field member => (each field member).alike)
        fun field member nullable path => ofFields field member (each field member)
    cases alike with
    | refl => rfl
    | record => exact inside
    | list => rfl
  | list item ofItem =>
    simp only [Agrees] at agrees
    obtain ⟨alike, each⟩ := agrees
    cases alike with
    | list => exact itemFindings_bare each (fun _ _ => Agrees.alike) fun _ _ _ => ofItem
    | _ => rfl
  | either first second ofFirst ofSecond =>
    simp only [Agrees] at agrees
    have one : (first.problems false path v).isEmpty = (first.problems false path w).isEmpty := by
      simpa only [List.isEmpty_map] using congrArg List.isEmpty (@ofFirst false path _ _ agrees.1)
    have other : (second.problems false path v).isEmpty =
        (second.problems false path w).isEmpty := by
      simpa only [List.isEmpty_map] using congrArg List.isEmpty (@ofSecond false path _ _ agrees.2)
    simp only [problems, one, other]
    split <;> rfl

theorem check_bare {shape : Schema} {v w : Value} (agrees : shape.Agrees v w) :
    (shape.check v).map Finding.bare = (shape.check w).map Finding.bare := by
  cases agrees.alike with
  | refl => rfl
  | _ => exact problems_bare agrees

theorem fits_iff_of_agrees {shape : Schema} {v w : Value} (agrees : shape.Agrees v w) :
    shape.Fits v ↔ shape.Fits w := by
  rw [← check_eq_nil_iff, ← check_eq_nil_iff, ← List.map_eq_nil_iff, check_bare agrees,
    List.map_eq_nil_iff]

end Schema

/-! ### Reading -/

theorem map_eq_of_forall₂ {α β : Type} {r : α → α → Prop} {f : α → β} {xs ys : List α}
    (each : List.Forall₂ r xs ys) (same : ∀ x ∈ xs, ∀ y, r x y → f x = f y) :
    xs.map f = ys.map f := by
  induction each with
  | nil => rfl
  | cons head _ ih =>
    rw [List.map_cons, List.map_cons, same _ (by simp) _ head,
      ih fun x member => same x (by simp [member])]

namespace Schema

/-- A value of the shape is told by what the schema sees of it. -/
def Rigid (shape : Schema) : Prop :=
  ∀ v w, shape.Agrees v w → shape.Fits v → v = w

theorem rigid_text (form : TextForm) : Rigid (.text form) := by
  intro v w agrees fits
  simp only [Fits] at fits
  obtain ⟨s, rfl, _⟩ := fits
  cases agrees.alike
  rfl

theorem rigid_number : Rigid .number := by
  intro v w agrees fits
  simp only [Fits] at fits
  obtain ⟨q, rfl, _⟩ := fits
  cases agrees.alike
  rfl

theorem eq_of_isCount {v w : Value} (alike : v.Alike w) (count : v.IsCount) : v = w := by
  obtain ⟨n, _, rfl⟩ := count
  cases alike
  rfl

theorem rigid_count : Rigid .count := fun _ _ agrees fits =>
  eq_of_isCount agrees.alike (fits_count.mp fits)

theorem rigid_boolean : Rigid .boolean := by
  intro v w agrees fits
  obtain ⟨b, rfl⟩ := fits_boolean.mp fits
  cases agrees.alike
  rfl

theorem eq_of_forall₂ {r : Value → Value → Prop} {v : Value} {xs : List Value}
    (alike : (Value.list xs).Alike v) (each : List.Forall₂ r xs v.listed)
    (same : ∀ x ∈ xs, ∀ y, r x y → x = y) : Value.list xs = v := by
  have items := @map_eq_of_forall₂ _ _ r id _ _ each same
  rw [List.map_id, List.map_id] at items
  cases alike with
  | refl => rfl
  | list => exact congrArg Value.list items

theorem rigid_pair : Rigid .pair := by
  intro v w agrees fits
  simp only [Agrees, Fits] at agrees fits
  obtain ⟨a, b, rfl, first, second⟩ := fits
  refine eq_of_forall₂ agrees.1 agrees.2 fun x member y alike => eq_of_isCount alike ?_
  simp only [List.mem_cons, List.not_mem_nil, or_false] at member
  rcases member with rfl | rfl
  · exact first
  · exact second

theorem rigid_list {item : Schema} (rigid : item.Rigid) : Rigid (.list item) := by
  intro v w agrees fits
  simp only [Agrees] at agrees
  obtain ⟨items, rfl, each⟩ := fits_list.mp fits
  exact eq_of_forall₂ agrees.1 agrees.2 fun x member y inside => rigid x y inside (each x member)

theorem rigid_leaf (leaf : Leaf) : leaf.schema.Rigid := by
  cases leaf with
  | free | snowflake | uri | status => exact rigid_text _
  | boolean => exact rigid_boolean
  | count => exact rigid_count
  | pair => exact rigid_pair

theorem eq_of_vacant {shape : Schema} {v w : Value} (agrees : shape.Agrees v w)
    (vacant : v.isVacant = true) : v = w := by
  cases agrees.alike with
  | refl => rfl
  | _ => contradiction

theorem eq_of_admits {occurrence : Occurrence} {shape : Schema} (rigid : shape.Rigid) {v w : Value}
    (agrees : shape.Agrees v w) (admitted : Admits occurrence shape v) : v = w := by
  unfold Admits at admitted
  split at admitted
  · exact rigid v w agrees admitted
  · rcases admitted with rfl | fits
    · exact eq_of_vacant agrees rfl
    · exact rigid v w agrees fits
  · rcases admitted with vacant | fits
    · exact eq_of_vacant agrees vacant
    · exact rigid v w agrees fits

theorem admits_of_agrees {occurrence : Occurrence} {shape : Schema} {v w : Value}
    (agrees : shape.Agrees v w) (admitted : Admits occurrence shape v) :
    Admits occurrence shape w := by
  unfold Admits at *
  split at admitted
  · exact (fits_iff_of_agrees agrees).mp admitted
  · rcases admitted with rfl | fits
    · exact .inl (eq_of_vacant agrees rfl).symm
    · exact .inr ((fits_iff_of_agrees agrees).mp fits)
  · rcases admitted with vacant | fits
    · exact .inl (eq_of_vacant agrees vacant ▸ vacant)
    · exact .inr ((fits_iff_of_agrees agrees).mp fits)

end Schema

/-- A button is its label and its link, whatever else its record holds. -/
theorem ActivityButton.ofItem_of_agrees {x y : Value}
    (agrees : itemSchema.Agrees x y) (fits : itemSchema.Fits x) : ofItem x = ofItem y := by
  cases agrees.alike with
  | refl => rfl
  | list =>
    simp [itemSchema, Schema.Fits, Schema.free, Schema.activityButton, Value.isRecord] at fits
  | record =>
    simp only [itemSchema, Schema.Agrees, Schema.activityButton, Schema.FieldsAgree, and_true]
      at agrees
    simp only [itemSchema, Schema.Fits, Schema.free, Schema.activityButton, Schema.FieldsFit,
      reduceCtorEq, false_and, exists_false, false_or, and_true] at fits
    have label : _ = _ := (Schema.rigid_text .free) _ _ agrees.2.2.1
      (by simpa only [Schema.Fits] using fits.2.1)
    have url : _ = _ := @Schema.eq_of_admits .nullable _ (Schema.rigid_text .free) _ _ agrees.2.2.2
      (by simpa only [Schema.Admits, Schema.Fits] using fits.2.2)
    simp only [ofItem, label, url]

theorem Atom.eq_of_agrees {a : Atom} (simple : a ≠ .buttons) {v w : Value}
    (agrees : a.schema.Agrees v w) (admitted : Schema.Admits a.occurrence a.schema v) : v = w := by
  refine Schema.eq_of_admits ?_ agrees admitted
  cases a with
  | required leaf | optional leaf => exact Schema.rigid_leaf leaf
  | switch => exact Schema.rigid_boolean
  | discriminator | optionalDiscriminator => exact Schema.rigid_text (.digits 4)
  | flags table | optionalFlags table => exact Schema.rigid_count
  | kind kinds | optionalKind kinds => exact Schema.rigid_number
  | leaves leaf | optionalLeaves leaf => exact Schema.rigid_list (Schema.rigid_leaf leaf)
  | buttons => contradiction

theorem Atom.read_agrees {a : Atom} {v w : Value} (agrees : a.schema.Agrees v w)
    (admitted : Schema.Admits a.occurrence a.schema v) (context : Option Context) :
    a.form.read (a.schema.copied v) context = a.form.read (a.schema.copied w) context := by
  by_cases listed : a = .buttons
  · subst listed
    have shown : v.listed.map ActivityButton.ofItem = w.listed.map ActivityButton.ofItem := by
      rcases admitted with vacant | fits
      · rw [Schema.eq_of_vacant agrees vacant]
      · simp only [schema, Schema.Agrees] at agrees
        obtain ⟨items, rfl, each⟩ := Schema.fits_list.mp fits
        refine map_eq_of_forall₂ agrees.2 fun x member y inside => ?_
        refine ActivityButton.ofItem_of_agrees ?_ (each x member)
        simpa only [ActivityButton.itemSchema, Schema.Agrees] using inside
    obtain ⟨buttons, read, same⟩ := @ActivityButton.decode_of_admits "buttons" v admitted
    obtain ⟨others, reread, again⟩ :=
      @ActivityButton.decode_of_admits "buttons" w (Schema.admits_of_agrees agrees admitted)
    rw [ActivityButton.itemSchema] at read reread
    simp only [form, ActivityButton.form, schema, read, reread, Except.map, same, again, shown]
  · rw [eq_of_agrees listed agrees admitted]

/-! ### Records -/

theorem Traced.forEach_eq_map {α β : Type} (f : α → Traced β) (items : List α) :
    forEach f items = forEach id (items.map f) := by
  induction items with
  | nil => rfl
  | cons item rest ih =>
    simp only [forEach, List.map_cons, ih]
    rfl

namespace Layout

theorem fieldsAgree_shapeFields {fields : List (String × String × Layout)} {v w : Value} :
    Schema.FieldsAgree (shapeFields fields) v w ↔
      ∀ field ∈ fields, field.2.2.schema.Agrees (v.seen field.1) (w.seen field.1) := by
  rw [Schema.fieldsAgree_iff, shapeFields_eq_map, List.forall_mem_map]

theorem reach_of_agrees {layout : Layout} {path : List String}
    (keyed : layout.hasKey path = true) {v w : Value} (agrees : layout.schema.Agrees v w)
    (fits : layout.schema.Fits v) : v.reach path = w.reach path := by
  induction layout generalizing path v w with
  | ofUser inner ofInner =>
    simp only [hasKey] at keyed
    simp only [schema] at agrees fits
    exact ofInner keyed agrees fits
  | atom a =>
    obtain ⟨rfl, rfl⟩ : a = .required .snowflake ∧ path = [] := by
      unfold hasKey at keyed
      split at keyed <;> simp_all
    simp only [schema] at agrees fits
    exact Schema.rigid_leaf .snowflake v w agrees fits
  | record fields ofFields =>
    cases path with
    | nil => simp [hasKey] at keyed
    | cons name rest =>
      obtain ⟨inner, member, inside⟩ := mem_of_fieldsHaveKey (by simpa only [hasKey] using keyed)
      simp only [schema, Schema.Agrees, fieldsAgree_shapeFields] at agrees
      have admitted := (admits_record.mp (admits_of_fits fits)).2 _ member
      exact ofFields _ member inside (agrees.2 _ member)
        (fits_of_admits (required_of_hasKey inside) admitted)
  | _ => simp [hasKey] at keyed

section
variable {v w : Value} {context : Option Context}

theorem read_fields_agree {fields : List (String × String × Layout)} (there : v.isVacant = false)
    (too : w.isVacant = false) (each : ∀ field ∈ fields,
      field.2.2.form.read (v.get field.1) context = field.2.2.form.read (w.get field.1) context) :
    (Form.record (formFields fields)).read v context =
      (Form.record (formFields fields)).read w context := by
  have all : Form.readFields v context (formFields fields) =
      Form.readFields w context (formFields fields) := by
    induction fields with
    | nil => rfl
    | cons head rest ih =>
      have found : v.field head.1 = .ok (v.get head.1) := by simp [Value.field, there]
      have again : w.field head.1 = .ok (w.get head.1) := by simp [Value.field, too]
      simp only [formFields, Form.readFields, found, again, Traced.ofExcept_ok_bind,
        each head (by simp), ih fun field member => each field (by simp [member])]
  simp only [Form.record, all]

theorem read_record_agree {fields : List (String × String × Layout)}
    (distinct : soundNames fields = true) (agrees : (record fields).schema.Agrees v w)
    (admitted : (record fields).Admits v)
    (each : ∀ field ∈ fields, field.2.2.schema.Agrees (v.seen field.1) (w.seen field.1) →
      field.2.2.Admits (v.seen field.1) →
      field.2.2.form.read (field.2.2.schema.copied (v.seen field.1)) context =
        field.2.2.form.read (field.2.2.schema.copied (w.seen field.1)) context) :
    (Form.record (formFields fields)).read ((record fields).schema.copied v) context =
      (Form.record (formFields fields)).read ((record fields).schema.copied w) context := by
  obtain ⟨isRecord, own⟩ := admits_record.mp admitted
  obtain ⟨again, _⟩ := admits_record.mp (Schema.admits_of_agrees agrees admitted)
  have inside := agrees
  simp only [schema, Schema.Agrees, fieldsAgree_shapeFields] at inside
  refine read_fields_agree (Schema.not_vacant_copied isRecord) (Schema.not_vacant_copied again)
    fun field member => ?_
  rw [get_copied distinct member, get_copied distinct member]
  exact each field member (inside.2 field member) (own field member)

theorem read_items_agree {item : Layout} {xs ys : List Value} {copy : Value → Value}
    (same : xs.map (fun x => item.form.read (copy x) context) =
      ys.map fun x => item.form.read (copy x) context) :
    (Form.list item.form).read (.list (xs.map copy)) context =
      (Form.list item.form).read (.list (ys.map copy)) context := by
  simp only [Form.list, Value.items, Traced.ofExcept_ok_bind, Traced.forEach_map,
    Traced.forEach_eq_map (fun x => item.form.read (copy x) context), same]

end

/-- What passes the check is read alike, with the same entries in the log. -/
theorem read_agrees {layout : Layout} (sound : layout.coherent = true) {v w : Value}
    (agrees : layout.schema.Agrees v w) (admitted : layout.Admits v) (context : Option Context) :
    layout.form.read (layout.schema.copied v) context =
      layout.form.read (layout.schema.copied w) context := by
  induction layout generalizing v w context with
  | atom a => exact Atom.read_agrees (by simpa only [schema] using agrees) admitted context
  | record fields ofFields =>
    exact read_record_agree (coherent_record.mp sound).1 agrees admitted fun field member inside
      own => ofFields field member ((coherent_record.mp sound).2 field member) inside own context
  | part fields ofFields =>
    rw [schema_part] at agrees ⊢
    rcases admits_part.mp admitted with vacant | admitted
    · rw [Schema.eq_of_vacant agrees vacant]
    · obtain ⟨distinct, sound⟩ := coherent_record.mp (coherent_part.mp sound)
      have isRecord := (admits_record.mp admitted).1
      have again := (admits_record.mp (Schema.admits_of_agrees agrees admitted)).1
      simp only [form, Form.part, isMeaningful_copied isRecord, isMeaningful_copied again, if_true]
      exact read_record_agree distinct agrees admitted fun field member inside own =>
        ofFields field member (sound field member) inside own context
  | ofUser inner ofInner =>
    obtain ⟨keyed, sound⟩ := coherent_ofUser.mp sound
    have fits := fits_of_admits (required_of_hasKey keyed) (admits_ofUser.mp admitted)
    simp only [schema] at agrees
    obtain ⟨s, shown, _⟩ := follow_of_hasKey sound keyed fits
    have id := (follow_copied sound keyed v).trans shown
    have again := (follow_copied sound keyed w).trans
      ((reach_of_agrees keyed agrees fits).symm.trans shown)
    simp only [form, schema, Value.field_of_follow id, Value.field_of_follow again]
    exact congrArg _ (funext fun _ => ofInner sound agrees (admits_ofUser.mp admitted) _)
  | list item ofItem =>
    obtain ⟨items, rfl, each⟩ := admits_list.mp admitted
    obtain ⟨others, rfl, _⟩ := admits_list.mp (Schema.admits_of_agrees agrees admitted)
    simp only [schema, Schema.Agrees] at agrees
    rw [schema, Schema.copied_list, Schema.copied_list]
    exact read_items_agree (map_eq_of_forall₂ agrees.2 fun x member y inside =>
      ofItem (coherent_list.mp sound).2 inside (admits_of_fits (each x member)) context)
  | optionalList item ofItem =>
    have again := admits_optionalList.mp (Schema.admits_of_agrees agrees admitted)
    obtain ⟨whole, each⟩ := listed_of_admits (admits_optionalList.mp admitted)
    obtain ⟨too, _⟩ := listed_of_admits again
    have sound := coherent_list.mp (coherent_optionalList.mp sound)
    simp only [schema, Schema.Agrees] at agrees
    simp only [form, Form.orElse, schema, copied_orElse whole, copied_orElse too]
    exact read_items_agree (map_eq_of_forall₂ agrees.2 fun x member y inside =>
      ofItem sound.2 inside (admits_of_fits (each x member)) context)
  | keyed collection key item ofItem =>
    have again := admits_keyed.mp (Schema.admits_of_agrees agrees admitted)
    obtain ⟨whole, each⟩ := listed_of_admits (admits_keyed.mp admitted)
    obtain ⟨too, _⟩ := listed_of_admits again
    simp only [schema, Schema.Agrees] at agrees
    have same := map_eq_of_forall₂ agrees.2 fun x member y inside =>
      ofItem (coherent_keyed.mp sound).2 inside (admits_of_fits (each x member)) context
    rw [form, schema, Keyed.read_form (copied_orElse whole), Keyed.read_form (copied_orElse too),
      Keyed.decode_map, Keyed.decode_map, Keyed.decode_congr same]

end Layout
end ChatGateway
