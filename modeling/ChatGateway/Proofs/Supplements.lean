import ChatGateway.Proofs.Missing
import ChatGateway.Proofs.Widening

/-! Values with further fields. What a checker finds wrong with a value stays wrong, whatever fields
are added to its records, unless it is that a field is missing. -/
namespace ChatGateway

/-- The second value is the first with further fields in its records, at any depth, but not inside a
list of buttons. -/
inductive Supplemented : Value → Value → Prop
  | refl (v : Value) : Supplemented v v
  | insert {before after : List (String × Value)} {name : String} {extra : Value} :
      name ∉ (before ++ after).map Prod.fst → extra.IsJson →
      Supplemented (.record (before ++ after)) (.record (before ++ (name, extra) :: after))
  | field {before after : List (String × Value)} {name : String} {v w : Value} :
      (name = "buttons" → ∀ items, v ≠ .list items) → Supplemented v w →
      Supplemented (.record (before ++ (name, v) :: after))
        (.record (before ++ (name, w) :: after))
  | item {before after : List Value} {v w : Value} : Supplemented v w →
      Supplemented (.list (before ++ v :: after)) (.list (before ++ w :: after))
  | trans {u v w : Value} : Supplemented u v → Supplemented v w → Supplemented u w

theorem Value.Alike.symm {v w : Value} (alike : v.Alike w) : w.Alike v := by
  cases alike with
  | refl => exact .refl _
  | record => exact .record ..
  | list => exact .list ..

namespace Supplemented

variable {v w : Value}

theorem alike (more : Supplemented v w) : v.Alike w := by
  induction more with
  | refl v => exact .refl v
  | insert => exact .record ..
  | field => exact .record ..
  | item => exact .list ..
  | trans _ _ first second => exact first.trans second

theorem isJson (more : Supplemented v w) (json : v.IsJson) : w.IsJson := by
  induction more with
  | refl => exact json
  | insert _ extra =>
    simp only [Value.isJson_record, List.forall_mem_append, List.forall_mem_cons] at *
    exact ⟨json.1, extra, json.2⟩
  | field _ _ ih =>
    simp only [Value.isJson_record, List.forall_mem_append, List.forall_mem_cons] at *
    exact ⟨json.1, ih json.2.1, json.2.2⟩
  | item _ ih =>
    simp only [Value.isJson_list, List.forall_mem_append, List.forall_mem_cons] at *
    exact ⟨json.1, ih json.2.1, json.2.2⟩
  | trans _ _ first second => exact second (first json)

theorem absent_of_absent (more : Supplemented v .absent) : v = .absent := by
  cases more.alike
  rfl

/-- What a record has is supplemented in turn. -/
theorem get (more : Supplemented v w) (name : String) :
    v.get name = .absent ∨ Supplemented (v.get name) (w.get name) := by
  induction more with
  | refl v => exact .inr (.refl _)
  | @insert before after added extra fresh _ =>
    by_cases same : name = added
    · subst same
      exact .inl (Value.get_record_of_not_mem fresh)
    · rw [Value.get_insert extra same]
      exact .inr (.refl _)
  | @field before after changed v w _ inner _ =>
    rcases @Value.get_replace before after changed name v w with kept | ⟨_, old, new⟩
    · rw [kept]
      exact .inr (.refl _)
    · rw [old, new]
      exact .inr inner
  | item => exact .inl rfl
  | trans _ _ first second =>
    rcases first with absent | first
    · exact .inl absent
    · rcases second with absent | second
      · rw [absent] at first
        exact .inl first.absent_of_absent
      · exact .inr (first.trans second)

/-- A list of buttons stays as it is. -/
theorem buttons (more : Supplemented v w) {items : List Value}
    (held : v.get "buttons" = .list items) : w.get "buttons" = .list items := by
  induction more with
  | refl v => exact held
  | @insert before after added extra fresh _ =>
    by_cases same : "buttons" = added
    · subst same
      rw [Value.get_record_of_not_mem fresh] at held
      contradiction
    · rwa [Value.get_insert extra same]
  | @field before after changed v w apart _ _ =>
    rcases @Value.get_replace before after changed "buttons" v w with kept | ⟨same, old, _⟩
    · rwa [← kept]
    · rw [old] at held
      exact absurd held (apart same.symm items)
  | item => contradiction
  | trans _ _ first second => exact second (first held)

/-- What is seen of a record that inherits nothing is supplemented in turn, even if the record comes
to inherit something. -/
theorem seen (more : Supplemented v w) (plain : ¬ v.NamesParent) (name : String) :
    v.seen name = .absent ∨ Supplemented (v.seen name) (w.seen name) := by
  rw [Value.seen_of_plain plain]
  rcases more.get name with absent | inner
  · exact .inl absent
  · by_cases missing : w.get name = .absent
    · rw [missing] at inner
      exact .inl inner.absent_of_absent
    · rw [Value.seen_of_get missing]
      exact .inr inner

theorem seen_buttons (more : Supplemented v w) (plain : ¬ v.NamesParent) {items : List Value}
    (held : v.seen "buttons" = .list items) : w.seen "buttons" = .list items := by
  rw [Value.seen_of_plain plain] at held
  have kept := more.buttons held
  rw [Value.seen_of_get (by rw [kept]; exact Value.noConfusion), kept]

theorem items (more : Supplemented v w) {xs : List Value} (list : v = .list xs) :
    ∃ ys, w = .list ys ∧ List.Forall₂ Supplemented xs ys := by
  induction more generalizing xs with
  | refl v => exact ⟨xs, list, List.forall₂_same.mpr fun x _ => .refl x⟩
  | insert => contradiction
  | field => contradiction
  | item inner _ =>
    obtain rfl := Value.list.inj list
    exact ⟨_, rfl, Schema.forall₂_replace .refl inner _ _⟩
  | trans _ _ first second =>
    obtain ⟨ys, rfl, each⟩ := first list
    obtain ⟨zs, rfl, others⟩ := second rfl
    refine ⟨zs, rfl, ?_⟩
    exact Schema.forall₂_trans (fun _ _ _ => .trans) each others

end Supplemented

/-- There is a text of the form. -/
def TextForm.inhabited : TextForm → Bool
  | .free | .uri => true
  | .digits most => 0 < most
  | .oneOf choices => choices.any (· ≠ "")

namespace Schema

def isChoices : Schema → Bool
  | .list (.either _ _) => true
  | _ => false

mutual

/-- Names are distinct in every record and none makes copies inherit, whatever is required can be
added, and only the items of a list of buttons have two shapes to choose from. -/
def completable : Schema → Bool
  | .text form => form.inhabited
  | .record fields => decide (fields.map Prod.fst).Nodup && fieldsCompletable fields
  | .list item => item.completable
  | .either _ _ => false
  | _ => true

def fieldsCompletable : List (String × Occurrence × Schema) → Bool
  | [] => true
  | (name, occurrence, shape) :: rest =>
    (if name = "buttons" then decide (occurrence ≠ .required) && shape.isChoices
      else decide (name ≠ Value.parentField) && shape.completable) && fieldsCompletable rest

end

/-- What `completable` says about one field. -/
inductive FieldCompletable : String × Occurrence × Schema → Prop
  | buttons {occurrence : Occurrence} {first second : Schema} : occurrence ≠ .required →
      FieldCompletable ("buttons", occurrence, .list (.either first second))
  | other {name : String} {occurrence : Occurrence} {shape : Schema} : name ≠ "buttons" →
      name ≠ Value.parentField → shape.completable = true →
      FieldCompletable (name, occurrence, shape)

theorem fieldCompletable_of_mem {fields : List (String × Occurrence × Schema)}
    (each : fieldsCompletable fields = true) : ∀ field ∈ fields, FieldCompletable field := by
  induction fields with
  | nil =>
    intro field member
    contradiction
  | cons head rest ih =>
    obtain ⟨name, occurrence, shape⟩ := head
    simp only [fieldsCompletable, Bool.and_eq_true] at each
    obtain ⟨own, others⟩ := each
    intro field member
    rcases List.mem_cons.mp member with rfl | later
    · split at own
      · rename_i same
        subst same
        simp only [Bool.and_eq_true, decide_eq_true_eq] at own
        obtain ⟨optional, choices⟩ := own
        unfold isChoices at choices
        split at choices
        · exact .buttons optional
        · contradiction
      · rename_i differs
        simp only [Bool.and_eq_true, decide_eq_true_eq] at own
        exact .other differs own.1 own.2
    · exact ih others field later

theorem completable_record {fields : List (String × Occurrence × Schema)} :
    (Schema.record fields).completable = true ↔
      (fields.map Prod.fst).Nodup ∧ fieldsCompletable fields = true := by
  simp only [completable, Bool.and_eq_true, decide_eq_true_eq]

/-- A list of buttons lacks nothing: a button that lacks something is none. -/
theorem not_lacks_choices {first second : Schema} {v : Value} {path : Path} :
    ¬ (Schema.list (.either first second)).Lacks v path := by
  intro lacks
  cases lacks with
  | item _ inner => cases inner

/-! ### A payload that can be completed only lacks something -/

section
variable {v w : Value}

theorem exists_of_forall₂ {α : Type} {r : α → α → Prop} {xs ys : List α}
    (each : List.Forall₂ r xs ys) : ∀ x ∈ xs, ∃ y ∈ ys, r x y := by
  induction each with
  | nil =>
    intro x member
    contradiction
  | @cons first second xs ys related _ ih =>
    intro x member
    rcases List.mem_cons.mp member with rfl | later
    · exact ⟨second, List.mem_cons_self, related⟩
    · obtain ⟨y, own, related⟩ := ih x later
      exact ⟨y, List.mem_cons_of_mem _ own, related⟩

theorem no_findings_of_fits {shape : Schema} (fits : shape.Fits v) :
    ∀ nullable, ∀ finding ∈ shape.problems nullable [] v, finding.violation = .missing := by
  intro nullable finding member
  rw [problems_eq_nil_iff.mpr fits] at member
  contradiction

theorem items_of_fits {item : Schema} (more : Supplemented v w) (fits : (Schema.list item).Fits w) :
    ∃ xs ys, v = .list xs ∧ w = .list ys ∧ List.Forall₂ Supplemented xs ys := by
  obtain ⟨ys, rfl, _⟩ := fits_list.mp fits
  obtain ⟨xs, rfl⟩ : ∃ xs, v = .list xs := by
    cases more.alike with
    | refl => exact ⟨ys, rfl⟩
    | list xs => exact ⟨xs, rfl⟩
  obtain ⟨_, same, each⟩ := more.items rfl
  obtain rfl := Value.list.inj same
  exact ⟨xs, ys, rfl, rfl, each⟩

/-- Nothing can be added to a pair. -/
theorem eq_of_supplemented_pair (more : Supplemented v w) (fits : Schema.pair.Fits w) : w = v := by
  apply rigid_pair w v _ fits
  simp only [Agrees]
  refine ⟨more.alike.symm, ?_⟩
  simp only [Fits] at fits
  obtain ⟨a, b, rfl, _⟩ := fits
  obtain ⟨xs, rfl⟩ : ∃ xs, v = .list xs := by
    cases more.alike with
    | refl => exact ⟨_, rfl⟩
    | list xs => exact ⟨xs, rfl⟩
  obtain ⟨_, same, each⟩ := more.items rfl
  obtain rfl := Value.list.inj same
  exact each.flip.imp fun _ _ inner => inner.alike.symm

theorem findings_of_supplemented {field : String × Occurrence × Schema}
    (sound : FieldCompletable field) (more : v = .absent ∨ Supplemented v w)
    (buttons : field.1 = "buttons" → ∀ items, v = .list items → w = .list items)
    (ofShape : field.2.2.completable = true → Supplemented v w → field.2.2.Fits w →
      ∀ nullable, ∀ finding ∈ field.2.2.problems nullable [] v, finding.violation = .missing)
    (admitted : Admits field.2.1 field.2.2 w) :
    ∀ finding ∈ findings field.2.1 field.2.2 [] v, finding.violation = .missing := by
  obtain ⟨name, occurrence, shape⟩ := field
  intro finding member
  by_cases absent : v = .absent
  · subst absent
    cases occurrence with
    | required =>
      obtain rfl := List.mem_singleton.mp member
      rfl
    | _ => contradiction
  have more := more.resolve_left absent
  by_cases null : v = .null
  · subst null
    cases more.alike
    cases occurrence with
    | required => cases not_vacant_of_fits admitted
    | optional => cases not_vacant_of_fits (admitted.resolve_left Value.noConfusion)
    | nullable => contradiction
  have there : v.isVacant = false := by cases v <;> first | rfl | contradiction
  have stays : w.isVacant = false := by
    cases more.alike with
    | refl => exact there
    | _ => rfl
  have fits : shape.Fits w := by
    cases occurrence with
    | required => exact admitted
    | optional =>
      apply admitted.resolve_left
      rintro rfl
      contradiction
    | nullable => exact admitted.resolve_left (by simp [stays])
  rw [findings_of_there there] at member
  cases sound with
  | buttons _ =>
    obtain ⟨xs, _, rfl, _, _⟩ := items_of_fits more fits
    rw [buttons rfl xs rfl] at fits
    exact no_findings_of_fits fits _ finding member
  | other _ _ sound => exact ofShape sound more fits _ finding member

/-- Where a value that inherits nothing can be completed something is missing and nothing else is
wrong. -/
theorem missing_of_supplemented {shape : Schema} (sound : shape.completable = true)
    (plain : ¬ v.NamesParent) (more : Supplemented v w) (fits : shape.Fits w) :
    ∀ nullable, ∀ finding ∈ shape.problems nullable [] v, finding.violation = .missing := by
  induction shape generalizing v w with
  | text form =>
    have same : w = v := rigid_text form w v (by simpa only [Agrees] using more.alike.symm) fits
    exact no_findings_of_fits (same ▸ fits)
  | number =>
    have same : w = v := rigid_number w v (by simpa only [Agrees] using more.alike.symm) fits
    exact no_findings_of_fits (same ▸ fits)
  | count =>
    have same : w = v := rigid_count w v (by simpa only [Agrees] using more.alike.symm) fits
    exact no_findings_of_fits (same ▸ fits)
  | boolean =>
    have same : w = v := rigid_boolean w v (by simpa only [Agrees] using more.alike.symm) fits
    exact no_findings_of_fits (same ▸ fits)
  | pair =>
    have same := eq_of_supplemented_pair more fits
    exact no_findings_of_fits (same ▸ fits)
  | record fields ofFields =>
    cases more.alike with
    | refl => exact no_findings_of_fits fits
    | list =>
      simp only [Fits] at fits
      cases fits.1
    | record own supplied =>
      intro nullable finding member
      simp only [Fits, fieldsFit_iff] at fits
      obtain ⟨_, each⟩ := fits
      obtain ⟨_, sound⟩ := completable_record.mp sound
      rw [problems_record rfl] at member
      obtain ⟨part, listed, inside, held, rfl⟩ := mem_sections.mp member
      obtain ⟨field, chosen, rfl⟩ := List.mem_map.mp listed
      have sound := fieldCompletable_of_mem sound field chosen
      have inner : ¬ ((Value.record own).seen field.1).NamesParent := by
        rw [Value.seen_of_plain plain]
        exact Value.not_namesParent_get plain field.1
      refine findings_of_supplemented sound (more.seen plain field.1) ?_ ?_ (each field chosen)
        inside held
      · intro same items list
        rw [same] at list ⊢
        exact more.seen_buttons plain list
      · intro sound more fits
        exact ofFields field chosen sound inner more fits
  | list item ofItem =>
    intro nullable finding member
    obtain ⟨xs, ys, rfl, rfl, each⟩ := items_of_fits more fits
    obtain ⟨_, same, fits⟩ := fits_list.mp fits
    obtain rfl := Value.list.inj same
    rw [problems_list] at member
    obtain ⟨part, listed, inside, held, rfl⟩ := mem_sections.mp member
    obtain ⟨⟨x, i⟩, chosen, rfl⟩ := List.mem_map.mp listed
    obtain ⟨y, own, more⟩ := exists_of_forall₂ each x (List.fst_mem_of_mem_zipIdx chosen)
    have fits := fits y own
    by_cases hole : x = .absent
    · subst hole
      cases more.alike
      exact absurd fits not_fits_absent
    · rw [itemProblems_of_there hole] at held
      have inner := Value.not_namesParent_item plain x (List.fst_mem_of_mem_zipIdx chosen)
      exact ofItem (by simpa only [completable] using sound) inner more fits false inside held
  | either => contradiction

end

end Schema
end ChatGateway
