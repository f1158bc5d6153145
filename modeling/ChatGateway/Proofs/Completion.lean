import ChatGateway.Proofs.Supplements

/-! Values that only lack something. Fields can be added to their records, one after the other,
until they have the shape. -/
namespace ChatGateway
namespace Schema

/-- There is a value of the shape, and a value that only lacks something can be completed to one. -/
structure Fillable (shape : Schema) : Prop where
  inhabited : ∃ v : Value, v.IsJson ∧ shape.Fits v
  completed : ∀ nullable (v : Value), v.IsJson →
    (∀ finding ∈ shape.problems nullable [] v, finding.violation = .missing) →
    ∃ w, Supplemented v w ∧ w.IsJson ∧ shape.Fits w

section
variable {v : Value} {nullable : Bool}

theorem fits_of_not_lacks {shape : Schema}
    (only : ∀ finding ∈ shape.problems nullable [] v, finding.violation = .missing)
    (whole : ∀ path, ¬ shape.Lacks v path) : shape.Fits v := by
  apply (@problems_eq_nil_iff shape nullable [] v).mp
  rw [List.eq_nil_iff_forall_not_mem]
  intro finding member
  apply whole finding.path
  apply mem_missingPlaces_problems.mp
  exact mem_missingPlaces.mpr ⟨finding, member, only finding member, rfl⟩

/-- An operation of lists has no shape. -/
theorem not_fits_method {shape : Schema} {name : String} : ¬ shape.Fits (.method name) := by
  induction shape with
  | count | pair => simp [Fits, Value.IsCount, Value.ofNat]
  | record => simp [Fits, Value.isRecord]
  | either first second ofFirst ofSecond =>
    simp only [Fits]
    exact not_or_intro ofFirst ofSecond
  | _ => simp [Fits]

/-- A value without records lacks nothing. -/
theorem fillable_of_not_lacks {shape : Schema} (inhabited : ∃ v : Value, v.IsJson ∧ shape.Fits v)
    (whole : ∀ v path, ¬ shape.Lacks v path) : Fillable shape where
  inhabited := inhabited
  completed _ v json only := ⟨v, .refl v, json, fits_of_not_lacks only (whole v)⟩

theorem exists_text {form : TextForm} (inhabited : form.inhabited = true) :
    ∃ s, form.Accepts s := by
  cases form with
  | free => exact ⟨"", trivial⟩
  | digits most =>
    have some : 0 < most := by simpa only [TextForm.inhabited, decide_eq_true_eq] using inhabited
    refine ⟨"0", ?_⟩
    have digit : isDigits 1 "0" = true := rfl
    simp only [TextForm.Accepts, isDigits, Bool.and_eq_true, decide_eq_true_eq] at digit ⊢
    exact ⟨⟨digit.1.1, digit.1.2.trans some⟩, digit.2⟩
  | uri => exact ⟨"a:b", by decide, rfl⟩
  | oneOf choices =>
    obtain ⟨s, listed, some⟩ := List.any_eq_true.mp inhabited
    exact ⟨s, by simpa using some, listed⟩

theorem check_of_isJson (shape : Schema) (json : v.IsJson) :
    shape.check v = shape.problems false [] v := by
  cases json <;> rfl

theorem isCount_zero : (Value.ofNat 0).IsCount :=
  ⟨0, Nat.zero_le _, rfl⟩

theorem isJson_ofNat (n : Nat) : (Value.ofNat n).IsJson :=
  .number _

end

section
variable {entries : List (String × Value)} {name : String}

theorem fresh_of_absent (json : (Value.record entries).IsJson)
    (absent : (Value.record entries).get name = .absent) : name ∉ entries.map Prod.fst := by
  intro member
  obtain ⟨entry, listed, rfl⟩ := List.mem_map.mp member
  cases found : entries.lookup entry.1 with
  | none =>
    have differs := List.lookup_eq_none_iff.mp found entry listed
    simp at differs
  | some held =>
    rw [Value.get, found] at absent
    obtain rfl : held = .absent := absent
    cases Value.isJson_record.mp json _ (Fields.mem_of_lookup found)

theorem split_of_lookup {v : Value} (found : entries.lookup name = some v) :
    ∃ before after, entries = before ++ (name, v) :: after ∧ before.lookup name = none := by
  induction entries with
  | nil => contradiction
  | cons head rest ih =>
    rw [List.lookup_cons] at found
    split at found
    · rename_i same
      obtain rfl := Option.some.inj found
      obtain rfl := eq_of_beq same
      exact ⟨[], rest, rfl, rfl⟩
    · rename_i differs
      obtain ⟨before, after, rfl, fresh⟩ := ih found
      refine ⟨head :: before, after, rfl, ?_⟩
      rw [List.lookup_cons, differs, fresh]

/-- The second record is the first with a value that is seen under a name, which is all that is
added to it. -/
structure FilledIn (entries : List (String × Value)) (name : String) (value : Value)
    (filled : List (String × Value)) : Prop where
  more : Supplemented (.record entries) (.record filled)
  json : (Value.record filled).IsJson
  own : (Value.record filled).seen name = value
  others : ∀ other, other ≠ name →
    (Value.record filled).seen other = (Value.record entries).seen other

theorem exists_added {extra : Value} (barren : name ≠ Value.parentField)
    (json : (Value.record entries).IsJson) (absent : (Value.record entries).get name = .absent)
    (good : extra.IsJson) : ∃ filled, FilledIn entries name extra filled := by
  have fresh := fresh_of_absent json absent
  have more : Supplemented (.record (entries ++ [])) (.record (entries ++ [(name, extra)])) :=
    .insert (by rwa [List.append_nil]) good
  rw [List.append_nil] at more
  refine ⟨entries ++ [(name, extra)], more, more.isJson json, ?_, ?_⟩
  · have own : (Value.record (entries ++ [(name, extra)])).get name = extra := by
      simp [Value.get, List.lookup_append, Value.lookup_of_not_mem fresh]
    rw [Value.seen_of_get, own]
    rw [own]
    rintro rfl
    cases good
  · intro other differs
    have kept := @Value.seen_insert entries [] name other extra differs barren
    rwa [List.append_nil] at kept

theorem exists_changed {v w : Value} (json : (Value.record entries).IsJson)
    (held : (Value.record entries).get name = v) (there : v ≠ .absent) (apart : name ≠ "buttons")
    (barren : name ≠ Value.parentField) (more : Supplemented v w) :
    ∃ filled, FilledIn entries name w filled := by
  have found : entries.lookup name = some v := by
    rw [Value.get] at held
    cases found : entries.lookup name with
    | none =>
      rw [found] at held
      exact absurd held.symm there
    | some value =>
      rw [found] at held
      exact congrArg some held
  obtain ⟨before, after, rfl, fresh⟩ := split_of_lookup found
  have changed : Supplemented (.record (before ++ (name, v) :: after))
      (.record (before ++ (name, w) :: after)) := .field (fun same => absurd same apart) more
  refine ⟨_, changed, changed.isJson json, ?_, ?_⟩
  · have own : (Value.record (before ++ (name, w) :: after)).get name = w := by
      simp [Value.get, List.lookup_append, fresh]
    rw [Value.seen_of_get, own]
    rw [own]
    rintro rfl
    exact there more.absent_of_absent
  · intro other differs
    rcases @Value.seen_replace before after name other v w barren with kept | ⟨same, _⟩
    · exact kept.symm
    · exact absurd same differs

/-- Any value can be put in the place of what is inherited, and what a record has of its own can be
supplemented. -/
theorem exists_placed {v w : Value} (json : (Value.record entries).IsJson)
    (shown : (Value.record entries).seen name = v) (there : v ≠ .absent) (apart : name ≠ "buttons")
    (barren : name ≠ Value.parentField) (more : Supplemented v w) (good : w.IsJson) :
    ∃ filled, FilledIn entries name w filled := by
  by_cases absent : (Value.record entries).get name = .absent
  · exact exists_added barren json absent good
  · rw [Value.seen_of_get absent] at shown
    exact exists_changed json shown there apart barren more

/-- A field that only lacks something can be filled in. -/
theorem exists_filled {field : String × Occurrence × Schema} (sound : FieldCompletable field)
    (ofShape : field.2.2.completable = true → Fillable field.2.2)
    (json : (Value.record entries).IsJson)
    (only : ∀ finding ∈ findings field.2.1 field.2.2 [] ((Value.record entries).seen field.1),
      finding.violation = .missing) :
    ∃ value filled, FilledIn entries field.1 value filled ∧
      Admits field.2.1 field.2.2 value := by
  obtain ⟨name, occurrence, shape⟩ := field
  have kept : FilledIn entries name ((Value.record entries).seen name) entries :=
    ⟨.refl _, json, rfl, fun _ _ => rfl⟩
  by_cases absent : (Value.record entries).seen name = .absent
  · rw [absent] at kept
    cases occurrence with
    | required =>
      cases sound with
      | buttons optional => contradiction
      | other _ barren sound =>
        obtain ⟨value, good, fits⟩ := (ofShape sound).inhabited
        have none : (Value.record entries).get name = .absent := by
          by_contra own
          exact own ((Value.seen_of_get own).symm.trans absent)
        obtain ⟨filled, added⟩ := exists_added barren json none good
        exact ⟨value, filled, added, fits⟩
    | optional => exact ⟨.absent, entries, kept, .inl rfl⟩
    | nullable => exact ⟨.absent, entries, kept, .inl rfl⟩
  by_cases excused : occurrence = .nullable ∧ (Value.record entries).seen name = .null
  · obtain ⟨rfl, null⟩ := excused
    rw [null] at kept
    exact ⟨.null, entries, kept, .inl rfl⟩
  have part : ((Value.record entries).seen name).IsPart :=
    Value.inherited_isPart.seen (.payload (.inr json)) name
  generalize shown : (Value.record entries).seen name = v at only kept absent excused part
  have own : findings occurrence shape [] v = shape.problems (occurrence = .nullable) [] v := by
    cases v <;> cases occurrence <;> first | rfl | simp at absent excused
  rw [own] at only
  have admits (value : Value) (fits : shape.Fits value) : Admits occurrence shape value := by
    cases occurrence with
    | required => exact fits
    | optional => exact .inr fits
    | nullable => exact .inr fits
  cases sound with
  | buttons _ =>
    refine ⟨v, entries, kept, admits v ?_⟩
    exact fits_of_not_lacks only fun _ => not_lacks_choices
  | other apart barren sound =>
    cases part with
    | payload given =>
      have given := given.resolve_left absent
      obtain ⟨value, more, good, fits⟩ := (ofShape sound).completed _ v given only
      obtain ⟨filled, placed⟩ := exists_placed json shown absent apart barren more good
      exact ⟨value, filled, placed, admits value fits⟩
    | method =>
      refine absurd (fits_of_not_lacks only fun path lacks => ?_) not_fits_method
      cases lacks <;> contradiction

theorem exists_all_filled {fields : List (String × Occurrence × Schema)}
    (distinct : (fields.map Prod.fst).Nodup)
    (sound : ∀ field ∈ fields, FieldCompletable field)
    (ofFields : ∀ field ∈ fields, field.2.2.completable = true → Fillable field.2.2)
    (json : (Value.record entries).IsJson)
    (only : ∀ field ∈ fields,
      ∀ finding ∈ findings field.2.1 field.2.2 [] ((Value.record entries).seen field.1),
        finding.violation = .missing) :
    ∃ filled, Supplemented (.record entries) (.record filled) ∧ (Value.record filled).IsJson ∧
      (∀ field ∈ fields, Admits field.2.1 field.2.2 ((Value.record filled).seen field.1)) ∧
      ∀ other, other ∉ fields.map Prod.fst →
        (Value.record filled).seen other = (Value.record entries).seen other := by
  induction fields generalizing entries with
  | nil => exact ⟨entries, .refl _, json, by simp, fun _ _ => rfl⟩
  | cons head rest ih =>
    rw [List.map_cons, List.nodup_cons] at distinct
    obtain ⟨fresh, distinct⟩ := distinct
    simp only [List.forall_mem_cons] at sound ofFields only ⊢
    obtain ⟨value, first, filled, admitted⟩ := exists_filled sound.1 ofFields.1 json only.1
    have later : ∀ field ∈ rest,
        ∀ finding ∈ findings field.2.1 field.2.2 [] ((Value.record first).seen field.1),
          finding.violation = .missing := by
      intro field member
      have differs : field.1 ≠ head.1 :=
        fun same => fresh (same ▸ List.mem_map_of_mem member)
      rw [filled.others field.1 differs]
      exact only.2 field member
    obtain ⟨last, more, good, each, others⟩ := ih distinct sound.2 ofFields.2 filled.json later
    refine ⟨last, filled.more.trans more, good, ⟨?_, each⟩, ?_⟩
    · rw [others head.1 fresh, filled.own]
      exact admitted
    · intro other unlisted
      rw [List.map_cons, List.mem_cons, not_or] at unlisted
      rw [others other unlisted.2, filled.others other unlisted.1]

theorem exists_record_filled {fields : List (String × Occurrence × Schema)}
    (sound : (Schema.record fields).completable = true)
    (ofFields : ∀ field ∈ fields, field.2.2.completable = true → Fillable field.2.2)
    (json : (Value.record entries).IsJson)
    (only : ∀ finding ∈ (Schema.record fields).check (.record entries),
      finding.violation = .missing) :
    ∃ w, Supplemented (.record entries) w ∧ w.IsJson ∧ (Schema.record fields).Fits w := by
  obtain ⟨distinct, sound⟩ := completable_record.mp sound
  have each : ∀ field ∈ fields,
      ∀ finding ∈ findings field.2.1 field.2.2 [] ((Value.record entries).seen field.1),
        finding.violation = .missing := by
    intro field member finding found
    rw [check_eq_findings, findings_record rfl] at only
    exact only (finding.under [.key field.1])
      (mem_sections.mpr ⟨_, List.mem_map_of_mem member, finding, found, rfl⟩)
  obtain ⟨filled, more, good, admitted, _⟩ :=
    exists_all_filled distinct (fieldCompletable_of_mem sound) ofFields json each
  refine ⟨_, more, good, ?_⟩
  simp only [Fits, fieldsFit_iff]
  exact ⟨rfl, admitted⟩

end

theorem supplemented_list {xs ys : List Value} (each : List.Forall₂ Supplemented xs ys)
    (before : List Value) : Supplemented (.list (before ++ xs)) (.list (before ++ ys)) := by
  induction each generalizing before with
  | nil => exact .refl _
  | @cons x y xs ys head _ ih =>
    have first : Supplemented (.list (before ++ x :: xs)) (.list (before ++ y :: xs)) := .item head
    have rest := ih (before ++ [y])
    rw [List.append_assoc, List.append_assoc] at rest
    exact first.trans rest

theorem exists_items_filled {item : Schema} (ofItem : Fillable item) {items : List Value}
    (json : ∀ x ∈ items, x.IsJson)
    (only : ∀ x ∈ items, ∀ finding ∈ item.problems false [] x, finding.violation = .missing) :
    ∃ filled, List.Forall₂ Supplemented items filled ∧ ∀ y ∈ filled, y.IsJson ∧ item.Fits y := by
  induction items with
  | nil => exact ⟨[], .nil, by simp⟩
  | cons head rest ih =>
    simp only [List.forall_mem_cons] at json only
    obtain ⟨first, more, good, fits⟩ := ofItem.completed false head json.1 only.1
    obtain ⟨filled, each, others⟩ := ih json.2 only.2
    exact ⟨first :: filled, .cons more each, List.forall_mem_cons.mpr ⟨⟨good, fits⟩, others⟩⟩

/-- The problems of an item are problems of its list. -/
theorem only_missing_items {item : Schema} {nullable : Bool} {items : List Value}
    (json : ∀ x ∈ items, x.IsJson)
    (only : ∀ finding ∈ (Schema.list item).problems nullable [] (.list items),
      finding.violation = .missing) :
    ∀ x ∈ items, ∀ finding ∈ item.problems false [] x, finding.violation = .missing := by
  intro x member finding found
  obtain ⟨i, held⟩ := List.mem_iff_getElem?.mp member
  have there : x ≠ .absent := by
    rintro rfl
    cases json _ member
  rw [problems_list] at only
  apply only (finding.under [.index (.ofNat i)])
  apply mem_sections.mpr
  refine ⟨(.index (.ofNat i), item.itemProblems x), ?_, finding, ?_, rfl⟩
  · exact List.mem_map.mpr ⟨(x, i), List.mem_zipIdx_iff_getElem?.mpr held, rfl⟩
  · rwa [itemProblems_of_there there]

/-- A record without fields only lacks some. -/
theorem only_missing_of_empty {fields : List (String × Occurrence × Schema)} :
    ∀ finding ∈ (Schema.record fields).check (.record []), finding.violation = .missing := by
  intro finding member
  rw [check_eq_findings, findings_record rfl] at member
  obtain ⟨part, listed, inside, held, rfl⟩ := mem_sections.mp member
  obtain ⟨⟨name, occurrence, shape⟩, _, rfl⟩ := List.mem_map.mp listed
  cases occurrence with
  | required =>
    obtain rfl := List.mem_singleton.mp held
    rfl
  | _ => contradiction

theorem fillable_of_completable {shape : Schema} (sound : shape.completable = true) :
    Fillable shape := by
  induction shape with
  | text form =>
    obtain ⟨s, accepted⟩ := exists_text (by simpa only [completable] using sound)
    have fits : (Schema.text form).Fits (.text s) := by
      simp only [Fits]
      exact ⟨s, rfl, accepted⟩
    exact fillable_of_not_lacks ⟨_, .text s, fits⟩ fun _ _ => by rintro ⟨⟩
  | number =>
    have fits : Schema.number.Fits (.number (.finite 0)) := by
      simp [Fits, Number.safeLimit]
    exact fillable_of_not_lacks ⟨_, .number _, fits⟩ fun _ _ => by rintro ⟨⟩
  | count =>
    exact fillable_of_not_lacks ⟨_, isJson_ofNat 0, fits_count.mpr isCount_zero⟩
      fun _ _ => by rintro ⟨⟩
  | boolean =>
    exact fillable_of_not_lacks ⟨_, .bool false, fits_boolean.mpr ⟨false, rfl⟩⟩
      fun _ _ => by rintro ⟨⟩
  | pair =>
    have good : (Value.list [.ofNat 0, .ofNat 0]).IsJson := by simp [isJson_ofNat]
    have fits : Schema.pair.Fits (.list [.ofNat 0, .ofNat 0]) := by
      simp only [Fits]
      exact ⟨_, _, rfl, isCount_zero, isCount_zero⟩
    exact fillable_of_not_lacks ⟨_, good, fits⟩ fun _ _ => by rintro ⟨⟩
  | record fields ofFields =>
    constructor
    · obtain ⟨w, _, good, fits⟩ :=
        exists_record_filled sound ofFields (.record (by simp)) only_missing_of_empty
      exact ⟨w, good, fits⟩
    · intro nullable v json only
      cases json with
      | @record entries good =>
        apply exists_record_filled sound ofFields (.record good)
        simpa only [check, problems] using only
      | _ =>
        simp only [problems] at only
        cases only _ List.mem_cons_self
  | list item ofItem =>
    have fillable := ofItem (by simpa only [completable] using sound)
    constructor
    · exact ⟨.list [], by simp, fits_list.mpr ⟨[], rfl, by simp⟩⟩
    · intro nullable v json only
      cases json with
      | @list items good =>
        obtain ⟨filled, each, others⟩ :=
          exists_items_filled fillable good (only_missing_items good only)
        refine ⟨.list filled, supplemented_list each [], ?_, ?_⟩
        · exact .list fun y member => (others y member).1
        · exact fits_list.mpr ⟨filled, rfl, fun y member => (others y member).2⟩
      | _ =>
        simp only [problems] at only
        cases only _ List.mem_cons_self
  | either => contradiction

end Schema
end ChatGateway
