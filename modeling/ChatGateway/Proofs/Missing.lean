import ChatGateway.Proofs.Locality

/-! Missing fields. `Lacks` says where a required field of a record that is there is missing; the
checker finds each such place once, and no other one. -/
namespace ChatGateway

/-- The places of the missing fields among the findings. -/
def missingPlaces (findings : List Finding) : List Path :=
  (findings.filter fun finding => finding.violation = .missing).map Finding.path

theorem mem_missingPlaces {findings : List Finding} {path : Path} : path ∈ missingPlaces findings ↔
    ∃ finding ∈ findings, finding.violation = .missing ∧ finding.path = path := by
  simp [missingPlaces, and_assoc]

theorem missingPlaces_eq_nil {findings : List Finding}
    (other : ∀ finding ∈ findings, finding.violation ≠ .missing) : missingPlaces findings = [] := by
  rw [List.eq_nil_iff_forall_not_mem]
  intro path member
  obtain ⟨finding, found, missing, _⟩ := mem_missingPlaces.mp member
  exact other finding found missing

namespace Schema

/-- The value has a record, at the start of the path, that lacks the required field at its end. -/
inductive Lacks : Schema → Value → Path → Prop
  | here {fields : List (String × Occurrence × Schema)} {name : String} {shape : Schema}
      {v : Value} : (name, .required, shape) ∈ fields → v.isRecord = true →
      v.seen name = .absent → Lacks (.record fields) v [.key name]
  | field {fields : List (String × Occurrence × Schema)} {name : String} {occurrence : Occurrence}
      {shape : Schema} {v : Value} {path : Path} : (name, occurrence, shape) ∈ fields →
      v.isRecord = true → Lacks shape (v.seen name) path →
      Lacks (.record fields) v (.key name :: path)
  | item {item : Schema} {items : List Value} {position : Nat} {v : Value} {path : Path} :
      items[position]? = some v → Lacks item v path →
      Lacks (.list item) (.list items) (.index (.ofNat position) :: path)

theorem Lacks.not_vacant {shape : Schema} {v : Value} {path : Path} (lacks : shape.Lacks v path) :
    v.isVacant = false := by
  cases lacks with
  | here _ record _ => exact not_vacant_of_isRecord record
  | field _ record _ => exact not_vacant_of_isRecord record
  | item => rfl

theorem Lacks.there {shape : Schema} {v : Value} {path : Path} (lacks : shape.Lacks v path) :
    v ≠ .absent := by
  intro absent
  subst absent
  cases lacks.not_vacant

/-! ### Values without parts -/

theorem not_missing_of_notListed {form : TextForm} {nullable : Bool} {v : Value} :
    .missing ∉ form.notListed nullable v := by
  unfold TextForm.notListed
  split
  · split <;> simp
  · simp

theorem not_missing_of_violations {form : TextForm} {s : String} :
    .missing ∉ form.violations s := by
  cases form with
  | free => simp [TextForm.violations]
  | digits most =>
    simp only [TextForm.violations]
    split
    · simp
    · split <;> simp
  | uri =>
    simp only [TextForm.violations]
    split
    · simp
    · split <;> simp
  | oneOf choices =>
    simp only [TextForm.violations]
    split <;> simp

theorem not_missing_of_text {form : TextForm} {nullable : Bool} {v : Value} {violation : Violation}
    (found : violation ∈ form.check nullable v) : violation ≠ .missing := by
  rintro rfl
  unfold TextForm.check at found
  rcases List.mem_append.mp found with listed | broken
  · exact not_missing_of_notListed listed
  · split at broken
    · exact not_missing_of_violations broken
    · simp at broken

theorem not_missing_of_number {v : Value} {violation : Violation}
    (found : violation ∈ checkNumber v) : violation ≠ .missing := by
  unfold checkNumber at found
  split at found
  · obtain rfl := List.mem_singleton.mp found
    exact Violation.noConfusion
  · split at found
    · obtain rfl := List.mem_singleton.mp found
      exact Violation.noConfusion
    · contradiction
  · obtain rfl := List.mem_singleton.mp found
    exact Violation.noConfusion

theorem not_missing_of_count {v : Value} {violation : Violation}
    (found : violation ∈ checkCount v) : violation ≠ .missing := by
  unfold checkCount at found
  split at found
  · rename_i n _
    rintro rfl
    cases n <;> simp at found
  · exact not_missing_of_number found

theorem not_missing_of_placed {path : Path} {v : Value} {violations : List Violation}
    (other : ∀ violation ∈ violations, violation ≠ .missing) :
    ∀ finding ∈ placed path v violations, finding.violation ≠ .missing := by
  intro finding member
  obtain ⟨violation, found, rfl⟩ := List.mem_map.mp member
  exact other violation found

theorem not_missing_of_pair {path : Path} {whole : Value} {lacking position : Nat}
    {items : List Value} : ∀ finding ∈ pairFindings path whole lacking position items,
      finding.violation ≠ .missing := by
  intro finding member
  cases pairFault_of_mem member with
  | item _ _ broken => exact not_missing_of_count broken
  | _ => exact Violation.noConfusion

/-! ### Places -/

theorem missingPlaces_sections {parts : List (Segment × List Finding)} :
    missingPlaces (sections parts) =
      parts.flatMap fun part => (missingPlaces part.2).map (part.1 :: ·) := by
  simp only [missingPlaces, sections, List.filter_flatMap, List.map_flatMap, List.filter_map,
    List.map_map]
  rfl

theorem nodup_missingPlaces_sections {parts : List (Segment × List Finding)}
    (distinct : (parts.map Prod.fst).Nodup) (each : ∀ part ∈ parts, (missingPlaces part.2).Nodup) :
    (missingPlaces (sections parts)).Nodup := by
  rw [missingPlaces_sections, List.nodup_flatMap]
  constructor
  · intro part member
    exact (each part member).map fun _ _ same => (List.cons.inj same).2
  · apply (List.pairwise_map.mp distinct).imp
    intro first second differs
    simp only [Function.onFun, List.disjoint_left, List.mem_map]
    rintro path ⟨one, _, rfl⟩ ⟨other, _, same⟩
    exact differs (List.cons.inj same).1.symm

theorem mem_missingPlaces_findings {shape : Schema} {occurrence : Occurrence} {v : Value}
    {path : Path} (ofShape : ∀ nullable, path ∈ missingPlaces (shape.problems nullable [] v) ↔
      shape.Lacks v path) :
    path ∈ missingPlaces (findings occurrence shape [] v) ↔
      occurrence = .required ∧ v = .absent ∧ path = [] ∨ shape.Lacks v path := by
  by_cases vacant : v.isVacant = true
  · have none : ¬ shape.Lacks v path := by
      intro lacks
      rw [lacks.not_vacant] at vacant
      contradiction
    have own := ofShape false
    cases v with
    | absent => cases occurrence <;> simp [findings, missingPlaces, none]
    | null => cases occurrence <;> simp_all [findings, missingPlaces]
    | _ => contradiction
  · have there : v.isVacant = false := by simpa using vacant
    rw [findings_of_there there, ofShape]
    constructor
    · exact .inr
    · rintro (⟨_, rfl, _⟩ | lacks)
      · contradiction
      · exact lacks

theorem mem_missingPlaces_of_none {findings : List Finding} {shape : Schema} {v : Value}
    {path : Path} (other : ∀ finding ∈ findings, finding.violation ≠ .missing)
    (whole : ¬ shape.Lacks v path) :
    path ∈ missingPlaces findings ↔ shape.Lacks v path := by
  rw [missingPlaces_eq_nil other]
  exact ⟨nofun, fun lacks => absurd lacks whole⟩

theorem mem_missingPlaces_record {fields : List (String × Occurrence × Schema)} {nullable : Bool}
    {v : Value} {path : Path} (record : v.isRecord = true)
    (ofFields : ∀ field ∈ fields, ∀ nullable rest,
      rest ∈ missingPlaces (field.2.2.problems nullable [] (v.seen field.1)) ↔
        field.2.2.Lacks (v.seen field.1) rest) :
    path ∈ missingPlaces ((Schema.record fields).problems nullable [] v) ↔
      (Schema.record fields).Lacks v path := by
  rw [problems_record record, missingPlaces_sections, List.mem_flatMap]
  constructor
  · rintro ⟨part, listed, found⟩
    obtain ⟨⟨name, occurrence, inner⟩, member, rfl⟩ := List.mem_map.mp listed
    obtain ⟨rest, own, rfl⟩ := List.mem_map.mp found
    rcases (mem_missingPlaces_findings fun _ => ofFields _ member _ _).mp own with
      ⟨rfl, absent, rfl⟩ | lacks
    · exact .here member record absent
    · exact .field member record lacks
  · intro lacks
    cases lacks with
    | @here _ name inner _ member _ absent =>
      refine ⟨_, List.mem_map_of_mem member, List.mem_map.mpr ⟨[], ?_, rfl⟩⟩
      exact (mem_missingPlaces_findings fun _ => ofFields _ member _ _).mpr
        (.inl ⟨rfl, absent, rfl⟩)
    | @field _ name occurrence inner _ rest member _ lacks =>
      refine ⟨_, List.mem_map_of_mem member, List.mem_map.mpr ⟨rest, ?_, rfl⟩⟩
      exact (mem_missingPlaces_findings fun _ => ofFields _ member _ _).mpr (.inr lacks)

theorem mem_missingPlaces_list {item : Schema} {items : List Value} {nullable : Bool} {path : Path}
    (ofItem : ∀ x rest, rest ∈ missingPlaces (item.problems false [] x) ↔ item.Lacks x rest) :
    path ∈ missingPlaces ((Schema.list item).problems nullable [] (.list items)) ↔
      (Schema.list item).Lacks (.list items) path := by
  rw [problems_list, missingPlaces_sections, List.mem_flatMap]
  constructor
  · rintro ⟨part, listed, found⟩
    obtain ⟨⟨x, i⟩, member, rfl⟩ := List.mem_map.mp listed
    obtain ⟨rest, own, rfl⟩ := List.mem_map.mp found
    have held := List.mem_zipIdx_iff_getElem?.mp member
    by_cases hole : x = .absent
    · subst hole
      contradiction
    · rw [itemProblems_of_there hole] at own
      exact .item held ((ofItem x rest).mp own)
  · intro lacks
    cases lacks with
    | @item _ _ i x rest held lacks =>
      have listed : (x, i) ∈ items.zipIdx := List.mem_zipIdx_iff_getElem?.mpr held
      refine ⟨(.index (.ofNat i), item.itemProblems x),
        List.mem_map.mpr ⟨(x, i), listed, rfl⟩, List.mem_map.mpr ⟨rest, ?_, rfl⟩⟩
      rw [itemProblems_of_there lacks.there]
      exact (ofItem x rest).mpr lacks

/-- The missing fields that the checker finds are the required fields that are not there in records
that are. -/
theorem mem_missingPlaces_problems {shape : Schema} {nullable : Bool} {v : Value} {path : Path} :
    path ∈ missingPlaces (shape.problems nullable [] v) ↔ shape.Lacks v path := by
  induction shape generalizing nullable v path with
  | text form =>
    exact mem_missingPlaces_of_none (not_missing_of_placed fun _ => not_missing_of_text)
      (by rintro ⟨⟩)
  | number =>
    exact mem_missingPlaces_of_none (not_missing_of_placed fun _ => not_missing_of_number)
      (by rintro ⟨⟩)
  | count =>
    exact mem_missingPlaces_of_none (not_missing_of_placed fun _ => not_missing_of_count)
      (by rintro ⟨⟩)
  | boolean =>
    have none : missingPlaces (Schema.boolean.problems nullable [] v) = [] := by
      cases v <;> rfl
    rw [none]
    exact iff_of_false List.not_mem_nil (by rintro ⟨⟩)
  | pair =>
    have none : missingPlaces (Schema.pair.problems nullable [] v) = [] := by
      cases v with
      | list items => exact missingPlaces_eq_nil not_missing_of_pair
      | _ => rfl
    rw [none]
    exact iff_of_false List.not_mem_nil (by rintro ⟨⟩)
  | record fields ofFields =>
    by_cases record : v.isRecord = true
    · apply mem_missingPlaces_record record
      intro field member nullable rest
      exact ofFields field member
    · have refused : missingPlaces ((Schema.record fields).problems nullable [] v) = [] := by
        simp only [problems, if_neg record]
        rfl
      rw [refused]
      constructor
      · intro member
        contradiction
      · intro lacks
        cases lacks with
        | here _ own _ => exact absurd own record
        | field _ own _ => exact absurd own record
  | list item ofItem =>
    cases v with
    | list items => exact mem_missingPlaces_list fun _ _ => ofItem
    | _ => exact iff_of_false List.not_mem_nil (by rintro ⟨⟩)
  | either first second _ _ =>
    have none : missingPlaces ((Schema.either first second).problems nullable [] v) = [] := by
      simp only [problems]
      split <;> rfl
    rw [none]
    exact iff_of_false List.not_mem_nil (by rintro ⟨⟩)

end Schema
end ChatGateway
