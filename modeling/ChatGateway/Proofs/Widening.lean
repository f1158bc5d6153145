import ChatGateway.Proofs.Agreement
import ChatGateway.Proofs.Decoding

/-! Fields that no schema names. A payload may be widened by such fields in any of its records, at
any depth: it is decoded as before, with the same entries in the log, or refused for the same
reasons. -/
namespace ChatGateway

namespace Schema

/-- The shapes that a schema has for the field `name` of a record, none if it does not name it. -/
def fieldShapes : Schema → String → List Schema
  | .record fields, name => (fields.filter (·.1 == name)).map (·.2.2)
  | .either first second, name => first.fieldShapes name ++ second.fieldShapes name
  | _, _ => []

/-- The shapes that a schema has for the items of a list. -/
def itemShapes : Schema → List Schema
  | .list item => [item]
  | .pair => [.count]
  | .either first second => first.itemShapes ++ second.itemShapes
  | _ => []

end Schema

/-- The second value is the first with further fields in some of its records. No further field is
named by a schema for the record that it is put in, and none makes a copy inherit; `shapes` are the
schemas for the whole. -/
inductive Widened : List Schema → Value → Value → Prop
  | refl (shapes : List Schema) (v : Value) : Widened shapes v v
  | insert {shapes : List Schema} {before after : List (String × Value)} {name : String}
      {extra : Value} : name ≠ Value.parentField →
      (∀ shape ∈ shapes, shape.fieldShapes name = []) → extra.IsJson →
      Widened shapes (.record (before ++ after)) (.record (before ++ (name, extra) :: after))
  | field {shapes : List Schema} {before after : List (String × Value)} {name : String}
      {v w : Value} : name ≠ Value.parentField → Widened (shapes.flatMap (·.fieldShapes name)) v w →
      Widened shapes (.record (before ++ (name, v) :: after))
        (.record (before ++ (name, w) :: after))
  /-- What a record inherits from is seen through the schemas for the record. -/
  | parent {shapes : List Schema} {before after : List (String × Value)} {v w : Value} :
      (∀ shape ∈ shapes, shape.fieldShapes Value.parentField = []) → Widened shapes v w →
      Widened shapes (.record (before ++ (Value.parentField, v) :: after))
        (.record (before ++ (Value.parentField, w) :: after))
  | item {shapes : List Schema} {before after : List Value} {v w : Value} :
      Widened (shapes.flatMap Schema.itemShapes) v w →
      Widened shapes (.list (before ++ v :: after)) (.list (before ++ w :: after))
  | trans {shapes : List Schema} {u v w : Value} :
      Widened shapes u v → Widened shapes v w → Widened shapes u w

namespace Value
section
variable {before after : List (String × Value)} {name other : String}

theorem lookup_insert (extra : Value) (differs : other ≠ name) :
    (before ++ (name, extra) :: after).lookup other = (before ++ after).lookup other := by
  have elsewhere : (other == name) = false := beq_eq_false_iff_ne.mpr differs
  simp only [List.lookup_append, List.lookup_cons, elsewhere]

theorem get_insert (extra : Value) (differs : other ≠ name) :
    (record (before ++ (name, extra) :: after)).get other =
      (record (before ++ after)).get other := by
  simp only [get, lookup_insert extra differs]

theorem seen_insert (extra : Value) (differs : other ≠ name) (barren : name ≠ parentField) :
    (record (before ++ (name, extra) :: after)).seen other =
      (record (before ++ after)).seen other := by
  simp only [seen, get_insert extra barren.symm, lookup_insert extra differs]

/-- An entry is found under its name unless an earlier one stands before it. -/
theorem lookup_replace (v w : Value) :
    (before ++ (name, v) :: after).lookup name = (before ++ (name, w) :: after).lookup name ∨
      (before ++ (name, v) :: after).lookup name = some v ∧
        (before ++ (name, w) :: after).lookup name = some w := by
  simp only [List.lookup_append]
  cases before.lookup name with
  | some held => exact .inl rfl
  | none => exact .inr (by simp)

/-- Two records that differ in one entry hold the same fields, unless they hold this entry. -/
theorem get_replace (v w : Value) :
    (record (before ++ (name, v) :: after)).get other =
        (record (before ++ (name, w) :: after)).get other ∨
      other = name ∧ (record (before ++ (name, v) :: after)).get other = v ∧
        (record (before ++ (name, w) :: after)).get other = w := by
  by_cases same : other = name
  · subst same
    simp only [get]
    rcases @lookup_replace before after other v w with kept | ⟨old, new⟩
    · exact .inl (by rw [kept])
    · exact .inr (by simp [old, new])
  · exact .inl (by rw [get_insert v same, get_insert w same])

theorem seen_replace (v w : Value) (barren : name ≠ parentField) :
    (record (before ++ (name, v) :: after)).seen other =
        (record (before ++ (name, w) :: after)).seen other ∨
      other = name ∧ (record (before ++ (name, v) :: after)).seen other = v ∧
        (record (before ++ (name, w) :: after)).seen other = w := by
  by_cases same : other = name
  · subst same
    simp only [seen, get_insert _ barren.symm]
    rcases @lookup_replace before after other v w with kept | ⟨old, new⟩
    · exact .inl (by rw [kept])
    · exact .inr (by simp [old, new])
  · exact .inl (by rw [seen_insert v same barren, seen_insert w same barren])

/-- Two records that inherit from two values hold the same fields themselves. -/
theorem seen_inherit (v w : Value) (differs : other ≠ parentField) :
    (record (before ++ (parentField, v) :: after)).seen other =
        (record (before ++ (parentField, w) :: after)).seen other ∨
      (record (before ++ (parentField, v) :: after)).seen other = v.lent other ∧
        (record (before ++ (parentField, w) :: after)).seen other = w.lent other := by
  simp only [seen, lookup_insert _ differs]
  cases (before ++ after).lookup other with
  | some held => exact .inl rfl
  | none =>
    rcases @get_replace before after parentField parentField v w with kept | ⟨_, old, new⟩
    · exact .inl (by rw [kept])
    · exact .inr (by rw [old, new]; exact ⟨rfl, rfl⟩)

end
end Value

namespace Schema

/-- Records that inherit from the values look the same to all that follow the schema, if they do of
themselves. -/
def LendAlike (shape : Schema) (v w : Value) : Prop :=
  ∀ name, ∀ inner ∈ shape.fieldShapes name, inner.Agrees (v.lent name) (w.lent name)

section
variable {shape : Schema} {v w : Value} {before after : List (String × Value)} {name : String}

/-- Records agree if what is seen of them does, wherever the schema has shapes for it. -/
theorem agrees_records {xs ys : List (String × Value)}
    (each : ∀ name, ∀ inner ∈ shape.fieldShapes name,
      inner.Agrees ((Value.record xs).seen name) ((Value.record ys).seen name)) :
    shape.Agrees (.record xs) (.record ys) := by
  induction shape with
  | record fields _ =>
    simp only [Agrees, fieldsAgree_iff]
    refine ⟨.record .., fun field member => each field.1 _ ?_⟩
    exact List.mem_map_of_mem (List.mem_filter.mpr ⟨member, beq_self_eq_true _⟩)
  | either first second ofFirst ofSecond =>
    simp only [fieldShapes, List.forall_mem_append] at each
    simp only [Agrees]
    exact ⟨ofFirst fun name => (each name).1, ofSecond fun name => (each name).2⟩
  | pair | list =>
    simp only [Agrees]
    exact ⟨.record .., .nil⟩
  | _ =>
    simp only [Agrees]
    exact .record ..

theorem ne_of_unnamed {other : String} {inner : Schema} (unnamed : shape.fieldShapes name = [])
    (named : inner ∈ shape.fieldShapes other) : other ≠ name := by
  rintro rfl
  rw [unnamed] at named
  contradiction

theorem agrees_insert {extra : Value} (barren : name ≠ Value.parentField)
    (unnamed : shape.fieldShapes name = []) :
    shape.Agrees (.record (before ++ after)) (.record (before ++ (name, extra) :: after)) := by
  refine agrees_records fun other inner named => ?_
  rw [Value.seen_insert extra (ne_of_unnamed unnamed named) barren]
  exact .refl _ _

theorem lendAlike_insert {extra : Value} (unnamed : shape.fieldShapes name = []) :
    shape.LendAlike (.record (before ++ after)) (.record (before ++ (name, extra) :: after)) := by
  intro other inner named
  rw [Value.lent_record, Value.lent_record,
    Value.get_insert extra (ne_of_unnamed unnamed named)]
  exact .refl _ _

theorem agrees_field (barren : name ≠ Value.parentField)
    (inside : ∀ inner ∈ shape.fieldShapes name, inner.Agrees v w) :
    shape.Agrees (.record (before ++ (name, v) :: after))
      (.record (before ++ (name, w) :: after)) := by
  refine agrees_records fun other inner named => ?_
  rcases @Value.seen_replace before after name other v w barren with kept | ⟨rfl, old, new⟩
  · rw [kept]
    exact .refl _ _
  · rw [old, new]
    exact inside inner named

theorem lendAlike_field (inside : ∀ inner ∈ shape.fieldShapes name, inner.Agrees v w) :
    shape.LendAlike (.record (before ++ (name, v) :: after))
      (.record (before ++ (name, w) :: after)) := by
  intro other inner named
  rw [Value.lent_record, Value.lent_record]
  rcases @Value.get_replace before after name other v w with kept | ⟨rfl, old, new⟩
  · rw [kept]
    exact .refl _ _
  · rw [old, new]
    exact inside inner named

theorem agrees_parent (unnamed : shape.fieldShapes Value.parentField = [])
    (alike : shape.LendAlike v w) :
    shape.Agrees (.record (before ++ (Value.parentField, v) :: after))
      (.record (before ++ (Value.parentField, w) :: after)) := by
  refine agrees_records fun other inner named => ?_
  rcases @Value.seen_inherit before after other v w (ne_of_unnamed unnamed named) with
    kept | ⟨old, new⟩
  · rw [kept]
    exact .refl _ _
  · rw [old, new]
    exact alike other inner named

theorem forall₂_replace {r : Value → Value → Prop} (same : ∀ x, r x x) (related : r v w)
    (before after : List Value) :
    List.Forall₂ r (before ++ v :: after) (before ++ w :: after) := by
  induction before with
  | nil => exact .cons related (List.forall₂_same.mpr fun x _ => same x)
  | cons head rest ih => exact .cons (same head) ih

theorem agrees_item {before after : List Value}
    (inside : ∀ inner ∈ shape.itemShapes, inner.Agrees v w) :
    shape.Agrees (.list (before ++ v :: after)) (.list (before ++ w :: after)) := by
  induction shape with
  | list item _ =>
    have own : item.Agrees v w := inside item (by simp [itemShapes])
    simp only [Agrees]
    exact ⟨.list .., forall₂_replace (Agrees.refl item) own before after⟩
  | pair =>
    have own : Schema.count.Agrees v w := inside .count (by simp [itemShapes])
    simp only [Agrees]
    exact ⟨.list .., forall₂_replace .refl own.alike before after⟩
  | either first second ofFirst ofSecond =>
    simp only [itemShapes, List.forall_mem_append] at inside
    simp only [Agrees]
    exact ⟨ofFirst inside.1, ofSecond inside.2⟩
  | record fields _ =>
    simp only [Agrees, fieldsAgree_iff]
    exact ⟨.list .., fun field _ => .refl _ _⟩
  | _ =>
    simp only [Agrees]
    exact .list ..

end
end Schema

namespace Widened
section
variable {shapes : List Schema} {v w : Value}

/-- A schema sees nothing of further fields, neither in the value nor in what inherits from it. -/
theorem agrees_and_lends (widened : Widened shapes v w) :
    ∀ shape ∈ shapes, shape.Agrees v w ∧ shape.LendAlike v w := by
  induction widened with
  | refl shapes v => exact fun shape _ => ⟨.refl shape v, fun _ inner _ => .refl inner _⟩
  | insert barren unnamed _ =>
    intro shape member
    exact ⟨Schema.agrees_insert barren (unnamed shape member),
      Schema.lendAlike_insert (unnamed shape member)⟩
  | @field shapes _ _ name v w barren _ ih =>
    -- Every shape that one of the schemas has for the field is among the shapes of the part.
    intro shape member
    have inside : ∀ inner ∈ shape.fieldShapes name, inner.Agrees v w := fun inner named =>
      (ih inner (List.mem_flatMap.mpr ⟨shape, member, named⟩)).1
    exact ⟨Schema.agrees_field barren inside, Schema.lendAlike_field inside⟩
  | parent unnamed _ ih =>
    intro shape member
    refine ⟨Schema.agrees_parent (unnamed shape member) (ih shape member).2, ?_⟩
    refine Schema.lendAlike_field fun inner named => ?_
    rw [unnamed shape member] at named
    contradiction
  | item _ ih =>
    intro shape member
    refine ⟨Schema.agrees_item fun inner listed => ?_, fun _ inner _ => .refl inner _⟩
    exact (ih inner (List.mem_flatMap.mpr ⟨shape, member, listed⟩)).1
  | trans _ _ first second =>
    intro shape member
    obtain ⟨agrees, lends⟩ := first shape member
    obtain ⟨further, lendsOn⟩ := second shape member
    exact ⟨agrees.trans further, fun name inner named =>
      (lends name inner named).trans (lendsOn name inner named)⟩

theorem agrees (widened : Widened shapes v w) : ∀ shape ∈ shapes, shape.Agrees v w :=
  fun shape member => (widened.agrees_and_lends shape member).1

theorem isJson (widened : Widened shapes v w) (json : v.IsJson) : w.IsJson := by
  induction widened with
  | refl => exact json
  | insert _ _ extra =>
    simp only [Value.isJson_record, List.forall_mem_append, List.forall_mem_cons] at *
    exact ⟨json.1, extra, json.2⟩
  | field _ _ ih | parent _ _ ih =>
    simp only [Value.isJson_record, List.forall_mem_append, List.forall_mem_cons] at *
    exact ⟨json.1, ih json.2.1, json.2.2⟩
  | item _ ih =>
    simp only [Value.isJson_list, List.forall_mem_append, List.forall_mem_cons] at *
    exact ⟨json.1, ih json.2.1, json.2.2⟩
  | trans _ _ first second => exact second (first json)

theorem isPayload (widened : Widened shapes v w) (given : v.IsPayload)
    (member : shapes ≠ []) : w.IsPayload := by
  obtain ⟨shape, rest⟩ := List.exists_mem_of_ne_nil shapes member
  rcases given with rfl | json
  · exact .inl (Schema.eq_of_vacant (widened.agrees shape rest) rfl).symm
  · exact .inr (widened.isJson json)

end
end Widened

/-! ### Reasons -/

def Problem.withoutValue (problem : Problem) : Problem :=
  { problem with value := .absent }

/-- A failure without the values that its problems show. Places, rules and messages stay. -/
def Failure.withoutValues : Failure → Failure
  | .decode error => .decode { error with details := error.details.map Problem.withoutValue }
  | failure => failure

theorem Failure.withoutValues_ofProblems (root : String) (problems : List Problem) :
    (Failure.decode (.ofProblems root problems)).withoutValues =
      .decode (.ofProblems root (problems.map Problem.withoutValue)) := by
  have messages : (problems.map Problem.withoutValue).map (·.message) =
      problems.map (·.message) := by
    rw [List.map_map]
    rfl
  have missing : DecodeError.missingOnly (problems.map Problem.withoutValue) =
      DecodeError.missingOnly problems := by
    simp [DecodeError.missingOnly, Problem.withoutValue, Function.comp_def]
  simp only [withoutValues, DecodeError.ofProblems, messages, missing]

theorem Schema.report_withoutValue {shape : Schema} {v w : Value} (agrees : shape.Agrees v w)
    (root : String) : (shape.report root v).map Problem.withoutValue =
      (shape.report root w).map Problem.withoutValue := by
  have bare (x : Value) : (shape.report root x).map Problem.withoutValue =
      ((shape.check x).map Finding.bare).map (Finding.report root) := by
    rw [report, List.map_map, List.map_map]
    rfl
  rw [bare, bare, check_bare agrees]

namespace RecordType

/-- What passes the check is decoded alike, log and all. -/
theorem decode_agrees {r : RecordType} {v w : Value} (agrees : r.schema.Agrees v w)
    (given : v.IsPayload) (again : w.IsPayload) (fits : r.schema.Fits v) (call : Call) :
    r.decode w call = r.decode v call := by
  refine decode_congr given again fits ((Schema.fits_iff_of_agrees agrees).mp fits) ?_ call
  intro context
  rw [← form_layout, ← schema_layout]
  rw [← schema_layout] at agrees
  exact (Layout.read_agrees r.coherent_layout agrees (admits_layout fits) context).symm

/-- Further fields that no schema names are invisible. A widened payload is decoded like the payload
itself, with the same entity and the same log, and is refused where the payload is refused, with
the same code, message and problems apart from the values that these show. -/
theorem decode_widened (r : RecordType) (call : Call) (payload widened : Value)
    (given : payload.IsPayload) (wider : Widened [r.schema] payload widened) :
    (∀ entity, (r.decode payload call).outcome = .ok entity →
      r.decode widened call = r.decode payload call) ∧
    ∀ failure, (r.decode payload call).outcome = .error failure → ∃ other,
      (r.decode widened call).outcome = .error other ∧
      other.withoutValues = failure.withoutValues := by
  have agrees : r.schema.Agrees payload widened := wider.agrees _ (by simp)
  have again : widened.IsPayload := wider.isPayload given (by simp)
  by_cases fits : r.schema.Fits payload
  · have same := decode_agrees agrees given again fits call
    constructor
    · intro _ _
      exact same
    · intro failure failed
      exact ⟨failure, same ▸ failed, rfl⟩
  · have misfit : ¬ r.schema.Fits widened := fun passes =>
      fits ((Schema.fits_iff_of_agrees agrees).mpr passes)
    have refused := outcome_decode_of_not_fits given fits call
    constructor
    · intro entity decoded
      rw [refused] at decoded
      contradiction
    · intro failure failed
      obtain rfl := Except.error.inj (refused.symm.trans failed)
      refine ⟨_, outcome_decode_of_not_fits again misfit call, ?_⟩
      rw [Failure.withoutValues_ofProblems, Failure.withoutValues_ofProblems,
        Schema.report_withoutValue agrees]

/-- An activity with one button, with `hint` beside each of their fields or without. -/
def hinted (hint : List (String × Value)) : Value := .record
  ([("name", .text "chess")] ++ (hint ++ [("buttons", .list [
    .record ([("label", .text "join")] ++ hint)])]))

theorem decode_widened_hinted : (hinted []).IsPayload ∧
    Widened [Schema.activity] (hinted []) (hinted [("hint", .null)]) ∧ ∃ entity,
      (Activity.decode (hinted []) none).outcome = .ok entity ∧
      Activity.decode (hinted [("hint", .null)]) none = Activity.decode (hinted []) none := by
  have given : (hinted []).IsPayload := .inr (by simp [hinted])
  have outside : ∀ shape ∈ [Schema.activity], shape.fieldShapes "hint" = [] := by
    simp [Schema.activity, Schema.fieldShapes]
  have inside : ∀ shape ∈ ([Schema.activity].flatMap (·.fieldShapes "buttons")).flatMap
      Schema.itemShapes, shape.fieldShapes "hint" = [] := by
    simp [Schema.activity, Schema.activityButton, Schema.free, Schema.fieldShapes,
      Schema.itemShapes]
  have button : Widened (([Schema.activity].flatMap (·.fieldShapes "buttons")).flatMap
      Schema.itemShapes) (.record [("label", .text "join")])
      (.record [("label", .text "join"), ("hint", .null)]) :=
    @Widened.insert _ [("label", .text "join")] [] "hint" .null (by decide) inside .null
  have wider : Widened [Schema.activity] (hinted []) (hinted [("hint", .null)]) :=
    .trans (@Widened.field _ [("name", .text "chess")] [] "buttons" _ _ (by decide)
      (@Widened.item _ [] [] _ _ button))
      (@Widened.insert _ [("name", .text "chess")] _ "hint" .null (by decide) outside .null)
  have decoded : (Activity.decode (hinted []) none).outcome =
      .ok (Layout.activity.entity (hinted [])) := rfl
  exact ⟨given, wider, _, decoded,
    (decode_widened activity (.within none) _ _ given wider).1 _ decoded⟩

end RecordType
end ChatGateway
