import ChatGateway.Proofs.Decoding

/-! Where problems stand. A checker that is handed a place only puts it before the places of what it
finds, so that the problems of a part are those of the part on its own, moved. -/
namespace ChatGateway

theorem Number.ofNat_injective {m n : Nat} (same : Number.ofNat m = .ofNat n) : m = n := by
  have whole := congrArg Number.integer? same
  rw [Number.integer?_ofNat, Number.integer?_ofNat] at whole
  exact Int.ofNat.inj (Option.some.inj whole)

/-- The finding of a part, told from the whole that has the part at `place`. -/
def Finding.under (place : Path) (finding : Finding) : Finding :=
  { finding with path := place ++ finding.path }

theorem Path.field_append (place path : Path) (name : String) :
    Path.field (place ++ path) name = place ++ path.field name :=
  List.append_assoc ..

theorem Path.item_append (place path : Path) (position : Nat) :
    Path.item (place ++ path) position = place ++ path.item position :=
  List.append_assoc ..

namespace Schema

variable {place path : Path} {v : Value}

/-- The problems of a value that may be missing as an occurrence says. -/
def findings (occurrence : Occurrence) (shape : Schema) (path : Path) (v : Value) : List Finding :=
  match v, occurrence with
  | .absent, .required => [⟨path, .missing, .absent⟩]
  | .absent, _ => []
  | .null, .nullable => []
  | value, _ => shape.problems (occurrence = .nullable) path value

theorem check_eq_findings (shape : Schema) (v : Value) :
    shape.check v = findings .required shape [] v := by
  cases v <;> rfl

theorem findings_of_there {occurrence : Occurrence} {shape : Schema}
    (there : v.isVacant = false) :
    findings occurrence shape path v = shape.problems (occurrence = .nullable) path v := by
  cases v <;> first | rfl | contradiction

theorem path_of_mem_findings {shape : Schema} {occurrence : Occurrence} {finding : Finding}
    (member : finding ∈ findings occurrence shape path v) :
    finding.path = path ∨ ∃ nullable, finding ∈ shape.problems nullable path v := by
  cases v with
  | absent =>
    cases occurrence with
    | required => exact .inl (List.mem_singleton.mp member ▸ rfl)
    | _ => contradiction
  | null =>
    cases occurrence with
    | nullable => contradiction
    | _ => exact .inr ⟨_, member⟩
  | _ => exact .inr ⟨_, member⟩

/-- What is no record is wrong as a whole where a record should be. -/
theorem path_of_not_record {fields : List (String × Occurrence × Schema)} {occurrence : Occurrence}
    {finding : Finding} (other : ¬ v.isRecord = true)
    (member : finding ∈ findings occurrence (.record fields) path v) : finding.path = path := by
  rcases path_of_mem_findings member with own | ⟨_, problem⟩
  · exact own
  · rw [problems, if_neg other] at problem
    exact List.mem_singleton.mp problem ▸ rfl

theorem fieldProblems_eq_flatMap {fields : List (String × Occurrence × Schema)} :
    fieldProblems fields path v = fields.flatMap fun field =>
      findings field.2.1 field.2.2 (path.field field.1) (v.seen field.1) := by
  induction fields with
  | nil => rfl
  | cons head rest ih =>
    obtain ⟨name, occurrence, shape⟩ := head
    simp only [fieldProblems, ih, List.flatMap_cons]
    congr 1

theorem itemFindings_cons {check : Path → Value → List Finding} {position : Nat}
    (there : v ≠ .absent) (rest : List Value) :
    itemFindings path check position (v :: rest) =
      check (path.item position) v ++ itemFindings path check (position + 1) rest := by
  cases v <;> first | rfl | contradiction

/-! ### Moving findings -/

theorem placed_under (violations : List Violation) :
    placed (place ++ path) v violations = (placed path v violations).map (Finding.under place) := by
  rw [placed, placed, List.map_map]
  rfl

theorem pairFindings_under {lacking position : Nat} {items : List Value} :
    pairFindings (place ++ path) v lacking position items =
      (pairFindings path v lacking position items).map (Finding.under place) := by
  induction items generalizing lacking position with
  | nil => cases lacking <;> rfl
  | cons item rest ih =>
    by_cases hole : item = .absent
    · subst hole
      simp only [pairFindings, List.map_cons, ih, Path.item_append]
      rfl
    · cases lacking with
      | zero => cases item <;> first | rfl | contradiction
      | succ lacking =>
        rw [pairFindings_cons hole, pairFindings_cons hole, ih, Path.item_append, placed_under,
          List.map_append]

theorem itemFindings_under {check : Path → Value → List Finding}
    (ofItem : ∀ path v, check (place ++ path) v = (check path v).map (Finding.under place))
    {position : Nat} {items : List Value} :
    itemFindings (place ++ path) check position items =
      (itemFindings path check position items).map (Finding.under place) := by
  induction items generalizing position with
  | nil => rfl
  | cons item rest ih =>
    by_cases hole : item = .absent
    · subst hole
      simp only [itemFindings, List.map_append, ih, Path.item_append]
      rfl
    · rw [itemFindings_cons hole, itemFindings_cons hole, ih, Path.item_append, ofItem,
        List.map_append]

theorem findings_under_of_problems {shape : Schema} {occurrence : Occurrence}
    (ofShape : ∀ nullable, shape.problems nullable (place ++ path) v =
      (shape.problems nullable path v).map (Finding.under place)) :
    findings occurrence shape (place ++ path) v =
      (findings occurrence shape path v).map (Finding.under place) := by
  cases v <;> cases occurrence <;> first | rfl | exact ofShape _

theorem fieldProblems_under {fields : List (String × Occurrence × Schema)}
    (ofFields : ∀ field ∈ fields, ∀ nullable path v, field.2.2.problems nullable (place ++ path) v =
      (field.2.2.problems nullable path v).map (Finding.under place)) :
    fieldProblems fields (place ++ path) v =
      (fieldProblems fields path v).map (Finding.under place) := by
  rw [fieldProblems_eq_flatMap, fieldProblems_eq_flatMap, List.map_flatMap]
  apply List.flatMap_congr
  intro field member
  rw [Path.field_append]
  apply findings_under_of_problems
  intro nullable
  exact ofFields field member nullable _ _

/-- A checker finds the same wherever a value stands. -/
theorem problems_under {shape : Schema} {nullable : Bool} :
    shape.problems nullable (place ++ path) v =
      (shape.problems nullable path v).map (Finding.under place) := by
  induction shape generalizing nullable path v with
  | text form => exact placed_under _
  | number => exact placed_under _
  | count => exact placed_under _
  | boolean => cases v <;> rfl
  | pair =>
    cases v with
    | list items => exact pairFindings_under
    | _ => rfl
  | record fields ofFields =>
    simp only [problems]
    split
    · apply fieldProblems_under
      intro field member nullable path v
      exact ofFields field member
    · rfl
  | list item ofItem =>
    cases v with
    | list items =>
      simp only [problems]
      apply itemFindings_under
      intro path v
      exact ofItem
    | _ => rfl
  | either first second ofFirst ofSecond =>
    simp only [problems, ofFirst, ofSecond, List.isEmpty_map]
    split <;> rfl

theorem findings_under {shape : Schema} {occurrence : Occurrence} :
    findings occurrence shape (place ++ path) v =
      (findings occurrence shape path v).map (Finding.under place) :=
  findings_under_of_problems fun _ => problems_under

/-- The problems of a part are those of the part on its own, moved to its place. -/
theorem findings_at {shape : Schema} {occurrence : Occurrence} :
    findings occurrence shape place v =
      (findings occurrence shape [] v).map (Finding.under place) := by
  have moved := @findings_under place [] v shape occurrence
  rwa [List.append_nil] at moved

/-! ### Parts of a value -/

/-- The findings of the parts of a value, each told from the whole. -/
def sections (parts : List (Segment × List Finding)) : List Finding :=
  parts.flatMap fun part => part.2.map (Finding.under [part.1])

/-- The problems of a list item, which must not be a hole. -/
def itemProblems (item : Schema) : Value → List Finding
  | .absent => [⟨[], .hole, .absent⟩]
  | v => item.problems false [] v

theorem itemProblems_of_there {item : Schema} (there : v ≠ .absent) :
    item.itemProblems v = item.problems false [] v := by
  cases v <;> first | rfl | contradiction

theorem mem_sections {parts : List (Segment × List Finding)} {finding : Finding} :
    finding ∈ sections parts ↔
      ∃ part ∈ parts, ∃ inside ∈ part.2, inside.under [part.1] = finding := by
  simp only [sections, List.mem_flatMap, List.mem_map]

theorem problems_record {fields : List (String × Occurrence × Schema)} {nullable : Bool}
    (record : v.isRecord = true) :
    (Schema.record fields).problems nullable [] v = sections (fields.map fun field =>
      (.key field.1, findings field.2.1 field.2.2 [] (v.seen field.1))) := by
  rw [problems, if_pos record, fieldProblems_eq_flatMap, sections, List.flatMap_map]
  apply List.flatMap_congr
  intro field member
  exact findings_at

theorem findings_record {fields : List (String × Occurrence × Schema)} {occurrence : Occurrence}
    (record : v.isRecord = true) :
    findings occurrence (.record fields) [] v = sections (fields.map fun field =>
      (.key field.1, findings field.2.1 field.2.2 [] (v.seen field.1))) := by
  rw [findings_of_there (not_vacant_of_isRecord record), problems_record record]

theorem itemFindings_eq_sections {item : Schema} {position : Nat} {items : List Value} :
    itemFindings [] (fun path v => item.problems false path v) position items =
      sections ((items.zipIdx position).map fun entry =>
        (.index (.ofNat entry.2), item.itemProblems entry.1)) := by
  induction items generalizing position with
  | nil => rfl
  | cons head rest ih =>
    rw [List.zipIdx_cons, List.map_cons, sections, List.flatMap_cons]
    by_cases hole : head = .absent
    · subst hole
      rw [itemFindings, ih]
      rfl
    · have own : item.problems false (Path.item [] position) head =
          (item.itemProblems head).map (Finding.under [.index (.ofNat position)]) := by
        have moved := @problems_under [.index (.ofNat position)] [] head item false
        rw [List.append_nil] at moved
        rw [itemProblems_of_there hole]
        exact moved
      rw [itemFindings_cons hole, ih, own]
      rfl

theorem problems_list {item : Schema} {nullable : Bool} {items : List Value} :
    (Schema.list item).problems nullable [] (.list items) =
      sections (items.zipIdx.map fun entry =>
        (.index (.ofNat entry.2), item.itemProblems entry.1)) := by
  rw [problems]
  exact itemFindings_eq_sections

end Schema

/-! ### Values that differ in one part -/

/-- Two values that differ in one part at most: at the path the first holds `x` and the second
`y`. -/
inductive Value.Apart (x y : Value) : Path → Value → Value → Prop
  | whole : Apart x y [] x y
  | field {name : String} {path : Path} {v w : Value} : v.isRecord = true → w.isRecord = true →
      (∀ other, other ≠ name → w.seen other = v.seen other) →
      Apart x y path (v.seen name) (w.seen name) → Apart x y (.key name :: path) v w
  | item {before after : List Value} {path : Path} {v w : Value} : v ≠ .absent → w ≠ .absent →
      Apart x y path v w → Apart x y (.index (.ofNat before.length) :: path)
        (.list (before ++ v :: after)) (.list (before ++ w :: after))

/-- A value of the first shape has parts of the second one at the path. -/
inductive Schema.Part (occurrence : Occurrence) (shape : Schema) :
    Occurrence → Schema → Path → Prop
  | whole : Part occurrence shape occurrence shape []
  | field {outer inner : Occurrence} {fields : List (String × Occurrence × Schema)} {name : String}
      {field : Schema} {path : Path} : (fields.map Prod.fst).Nodup → (name, inner, field) ∈ fields →
      Part occurrence shape inner field path →
      Part occurrence shape outer (.record fields) (.key name :: path)
  | item {outer : Occurrence} {item : Schema} {position : Number} {path : Path} :
      Part occurrence shape .required item path →
      Part occurrence shape outer (.list item) (.index position :: path)

/-- Two lists of findings that differ in one part at most: in those at the place, which are `xs` in
the first and `ys` in the second, told from there. -/
def DifferUnder (place : Path) (xs ys first second : List Finding) : Prop :=
  ∃ before after, first = before ++ xs.map (Finding.under place) ++ after ∧
    second = before ++ ys.map (Finding.under place) ++ after ∧
    ∀ finding ∈ before ++ after, ¬ place <+: finding.path

namespace DifferUnder

variable {place : Path} {segment : Segment} {xs ys first second : List Finding}

theorem whole : DifferUnder [] xs ys xs ys := by
  have same : Finding.under [] = id := rfl
  refine ⟨[], [], ?_, ?_, ?_⟩
  · simp [same]
  · simp [same]
  · simp

/-- Parts elsewhere do not change that. -/
theorem within (inner : DifferUnder place xs ys first second)
    {before after : List (Segment × List Finding)}
    (elsewhere : ∀ part ∈ before ++ after, part.1 ≠ segment) :
    DifferUnder (segment :: place) xs ys
      (Schema.sections (before ++ (segment, first) :: after))
      (Schema.sections (before ++ (segment, second) :: after)) := by
  obtain ⟨earlier, later, rfl, rfl, outside⟩ := inner
  have twice : Finding.under [segment] ∘ Finding.under place = Finding.under (segment :: place) :=
    rfl
  refine ⟨Schema.sections before ++ earlier.map (Finding.under [segment]),
    later.map (Finding.under [segment]) ++ Schema.sections after, ?_, ?_, ?_⟩
  · simp [Schema.sections, twice]
  · simp [Schema.sections, twice]
  · intro finding member started
    have split : finding ∈ Schema.sections (before ++ after) ∨
        ∃ inside ∈ earlier ++ later, inside.under [segment] = finding := by
      simp only [Schema.sections, List.mem_append, List.flatMap_append, List.mem_map] at member ⊢
      rcases member with (own | ⟨inside, own, same⟩) | (⟨inside, own, same⟩ | own)
      · exact .inl (.inl own)
      · exact .inr ⟨inside, .inl own, same⟩
      · exact .inr ⟨inside, .inr own, same⟩
      · exact .inl (.inr own)
    rcases split with found | ⟨inside, own, rfl⟩
    · obtain ⟨part, listed, inside, _, rfl⟩ := Schema.mem_sections.mp found
      exact elsewhere part listed (List.cons_prefix_cons.mp started).1.symm
    · exact outside inside own (List.cons_prefix_cons.mp started).2

end DifferUnder

namespace Schema

theorem findings_apart_field {fields : List (String × Occurrence × Schema)} {outer : Occurrence}
    {v w : Value} {name : String} {inner : Occurrence} {field : Schema} {path : Path}
    {xs ys : List Finding} (record : v.isRecord = true) (other : w.isRecord = true)
    (same : ∀ other, other ≠ name → w.seen other = v.seen other)
    (distinct : (fields.map Prod.fst).Nodup) (member : (name, inner, field) ∈ fields)
    (inside : DifferUnder path xs ys (findings inner field [] (v.seen name))
      (findings inner field [] (w.seen name))) :
    DifferUnder (.key name :: path) xs ys (findings outer (.record fields) [] v)
      (findings outer (.record fields) [] w) := by
  obtain ⟨before, after, rfl⟩ := List.append_of_mem member
  have differs : ∀ field ∈ before ++ after, field.1 ≠ name := by
    intro field listed same
    rw [List.map_append, List.map_cons, List.nodup_middle, List.nodup_cons, ← List.map_append]
      at distinct
    exact distinct.1 (List.mem_map.mpr ⟨field, listed, same⟩)
  have kept (part : List (String × Occurrence × Schema)) (listed : part ⊆ before ++ after) :
      (part.map fun field =>
        (Segment.key field.1, findings field.2.1 field.2.2 [] (w.seen field.1))) =
      part.map fun field =>
        (Segment.key field.1, findings field.2.1 field.2.2 [] (v.seen field.1)) := by
    apply List.map_congr_left
    intro field member
    rw [same field.1 (differs field (listed member))]
  rw [findings_record record, findings_record other, List.map_append, List.map_append,
    List.map_cons, List.map_cons, kept before (List.subset_append_left _ _),
    kept after (List.subset_append_right _ _)]
  apply inside.within
  intro part listed own
  rw [← List.map_append, List.mem_map] at listed
  obtain ⟨field, member, rfl⟩ := listed
  exact differs field member (Segment.key.inj own)

theorem findings_item {item : Schema} {outer : Occurrence} {v : Value} {before after : List Value}
    (there : v ≠ .absent) :
    findings outer (.list item) [] (.list (before ++ v :: after)) = sections
      (before.zipIdx.map (fun entry => (.index (.ofNat entry.2), item.itemProblems entry.1)) ++
        (.index (.ofNat before.length), findings .required item [] v) ::
        (after.zipIdx (before.length + 1)).map
          fun entry => (.index (.ofNat entry.2), item.itemProblems entry.1)) := by
  have own : findings .required item [] v = item.itemProblems v := by
    cases v <;> first | rfl | contradiction
  rw [findings_of_there rfl, problems_list, List.zipIdx_append, List.zipIdx_cons, List.map_append,
    List.map_cons, own, Nat.zero_add]

theorem findings_apart_item {item : Schema} {outer : Occurrence} {v w : Value}
    {before after : List Value} {path : Path} {xs ys : List Finding} (there : v ≠ .absent)
    (other : w ≠ .absent) (inside : DifferUnder path xs ys (findings .required item [] v)
      (findings .required item [] w)) :
    DifferUnder (.index (.ofNat before.length) :: path) xs ys
      (findings outer (.list item) [] (.list (before ++ v :: after)))
      (findings outer (.list item) [] (.list (before ++ w :: after))) := by
  rw [findings_item there, findings_item other]
  apply inside.within
  intro part listed own
  rcases List.mem_append.mp listed with earlier | later
  · obtain ⟨⟨x, i⟩, member, rfl⟩ := List.mem_map.mp earlier
    have same := Number.ofNat_injective (Segment.index.inj own)
    have bounds := List.mem_zipIdx member
    omega
  · obtain ⟨⟨x, i⟩, member, rfl⟩ := List.mem_map.mp later
    have same := Number.ofNat_injective (Segment.index.inj own)
    have bounds := List.mem_zipIdx member
    omega

/-- Two values that differ in one part at most differ at most in the problems of that part, and
these are the problems of the part on its own, moved to its place. -/
theorem findings_apart {occurrence outer : Occurrence} {part shape : Schema} {path : Path}
    {v w x y : Value} (reached : Part occurrence part outer shape path)
    (apart : Value.Apart x y path v w) :
    DifferUnder path (findings occurrence part [] x) (findings occurrence part [] y)
      (findings outer shape [] v) (findings outer shape [] w) := by
  induction reached generalizing v w with
  | whole =>
    cases apart
    exact .whole
  | field distinct member _ ih =>
    cases apart with
    | field record other same inside =>
      exact findings_apart_field record other same distinct member (ih inside)
  | item _ ih =>
    cases apart with
    | item there other inside => exact findings_apart_item there other (ih inside)

end Schema
end ChatGateway
