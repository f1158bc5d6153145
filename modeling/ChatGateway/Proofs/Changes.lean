import ChatGateway.Proofs.Nested

/-! Changes of one part of a payload. A field of a record or an item of a list takes another value;
the whole passes the check exactly if the new part does, and the entity changes at the same place
alone. -/
namespace ChatGateway

namespace Value

/-- Sets the field `name` of a record. -/
def put (v : Value) (name : String) (new : Value) : Value :=
  match v with
  | .record fields => .record (Fields.set name new fields)
  | .error errorName message stack own => .error errorName message stack (Fields.set name new own)
  | _ => v

def alterField (name : String) (change : Value → Value) (v : Value) : Value :=
  v.put name (change (v.get name))

/-- Changes the item at a position of a list. -/
def alterItem (position : Nat) (change : Value → Value) : Value → Value
  | .list items => .list (items.modify position change)
  | v => v

/-- Changes what a map has under a key, or nothing where no key is given. -/
def alterEntry (key : Option String) (change : Value → Value) : Value → Value
  | .map entries => .map (entries.map fun entry =>
      if key.any fun k => entry.1 == .text k then (entry.1, change entry.2) else entry)
  | v => v

/-- Fields of the value can be set. -/
def canPut : Value → Bool
  | .record _ | .error .. => true
  | _ => false

section
variable {v : Value} {name : String} {new : Value}

theorem canPut_of_text {s : String} (found : v.seen name = .text s) : v.canPut = true := by
  cases v with
  | record | error => rfl
  | map entries =>
    change (if name = "size" then Value.ofNat entries.length else .absent) = .text s at found
    split at found <;> contradiction
  | _ => simp [seen, get] at found

theorem canPut_put (able : v.canPut = true) : (v.put name new).canPut = true := by
  cases v <;> first | rfl | contradiction

theorem isRecord_of_canPut (able : v.canPut = true) : v.isRecord = true := by
  cases v <;> first | rfl | contradiction

theorem get_put (able : v.canPut = true) (other : String) :
    (v.put name new).get other = if other == name then new else v.get other := by
  cases v with
  | record fields =>
    simp only [put, get, Fields.lookup_set]
    cases other == name <;> rfl
  | error errorName message stack own =>
    simp only [put, get, Fields.lookup_set]
    cases other == name <;> rfl
  | _ => contradiction

theorem get_put_other (able : v.canPut = true) {other : String} (differs : other ≠ name) :
    (v.put name new).get other = v.get other := by
  rw [get_put able, if_neg (by simpa using differs)]

/-- What is set is seen, and nothing else looks different. -/
theorem seen_put (able : v.canPut = true) (barren : name ≠ parentField) (other : String) :
    (v.put name new).seen other = if other == name then new else v.seen other := by
  cases v with
  | record fields =>
    have parent : ((record fields).put name new).get parentField =
        (record fields).get parentField := get_put_other rfl barren.symm
    rw [put] at parent ⊢
    simp only [seen, parent, Fields.lookup_set]
    cases other == name <;> rfl
  | error errorName message stack own =>
    exact @get_put (.error errorName message stack own) name new able other
  | _ => contradiction

theorem seen_put_self (able : v.canPut = true) (barren : name ≠ parentField) :
    (v.put name new).seen name = new := by
  rw [seen_put able barren, if_pos (beq_self_eq_true name)]

theorem seen_put_other (able : v.canPut = true) (barren : name ≠ parentField) {other : String}
    (differs : other ≠ name) : (v.put name new).seen other = v.seen other := by
  rw [seen_put able barren, if_neg (by simpa using differs)]

/-- Nothing on a path that starts elsewhere changes. -/
theorem keyText_put (able : v.canPut = true) (barren : name ≠ parentField) {first : String}
    (differs : first ≠ name) (rest : List String) :
    (v.put name new).keyText (first :: rest) = v.keyText (first :: rest) := by
  simp only [keyText, reach, List.foldl_cons, seen_put_other able barren differs]

theorem inheritsMap_put (able : v.canPut = true) (barren : name ≠ parentField) :
    (v.put name new).inheritsMap = v.inheritsMap := by
  rw [inheritsMap, inheritsMap, get_put_other able barren.symm]

/-- Only where a copy gets a size can a map stand in its way. -/
theorem refusesCopy_put (barren : name ≠ parentField) (unsized : name ≠ "size") :
    (v.put name new).refusesCopy = v.refusesCopy := by
  cases v with
  | record fields =>
    have inherits := @inheritsMap_put (.record fields) name new rfl barren
    have late (entries : List (String × Value)) :
        (entries.dropWhile (·.1 != parentField)).any (·.1 == "size") =
          ((entries.map Prod.fst).dropWhile (· != parentField)).any (· == "size") := by
      rw [List.dropWhile_map, List.any_map]
      rfl
    rw [put] at inherits ⊢
    have other : (name == "size") = false := beq_eq_false_iff_ne.mpr unsized
    rw [refusesCopy, refusesCopy, inherits, late, late, Fields.keys_set]
    split
    · rfl
    · rw [List.dropWhile_append]
      split
      · rename_i none
        rw [List.isEmpty_iff.mp none]
        simp [barren]
      · rw [List.any_append, List.any_cons, other, List.any_nil, Bool.or_self, Bool.or_false]
  | _ => rfl

theorem refusesSize_put (able : v.canPut = true) (barren : name ≠ parentField)
    (unsized : name ≠ "size") : (v.put name new).refusesSize = v.refusesSize := by
  cases v with
  | record fields =>
    have inherits := @inheritsMap_put (.record fields) name new rfl barren
    rw [put] at inherits ⊢
    rw [refusesSize, refusesSize, inherits, Fields.lookup_set,
      beq_eq_false_iff_ne.mpr unsized.symm, if_neg Bool.false_ne_true]
  | error => rfl
  | _ => contradiction

theorem itemsAt_eq_listed : v.itemsAt name = (v.get name).listed := by
  unfold itemsAt listed
  rfl

/-- A list that a record has of its own is seen. -/
theorem seen_of_itemsAt {position : Nat} {item : Value}
    (there : (v.itemsAt name)[position]? = some item) : v.seen name = v.get name := by
  apply seen_of_get
  intro missing
  rw [itemsAt_eq_listed, missing] at there
  contradiction

theorem listed_alterItem (position : Nat) (change : Value → Value) :
    (v.alterItem position change).listed = v.listed.modify position change := by
  cases v <;> simp [alterItem, listed]

theorem eq_list_of_listed {position : Nat} {item : Value}
    (there : v.listed[position]? = some item) : v = .list v.listed := by
  cases v with
  | list items => rfl
  | _ => simp [listed] at there

end

/-- The key of an item, unless a later item has the same. -/
def keptKey (path : List String) (items : List Value) (position : Nat) : Option String :=
  match items.drop position with
  | [] => none
  | item :: later =>
    if item.keyText path ∈ later.map (keyText path) then none else some (item.keyText path)

end Value

theorem Fields.map_eq_set {κ ι α : Type} [BEq κ] [LawfulBEq κ] {name : ι → κ} {before after : ι → α}
    {items : List ι} (distinct : (items.map name).Nodup) {item : ι} (member : item ∈ items)
    (elsewhere : ∀ other ∈ items, name other ≠ name item → after other = before other) :
    items.map (fun i => (name i, after i)) =
      set (name item) (after item) (items.map fun i => (name i, before i)) := by
  induction items with
  | nil => contradiction
  | cons head rest ih =>
    simp only [List.map_cons, List.nodup_cons] at distinct
    rcases List.mem_cons.mp member with rfl | later
    · have others : ∀ other ∈ rest, after other = before other := fun other inside =>
        elsewhere other (by simp [inside]) fun same =>
          distinct.1 (same ▸ List.mem_map_of_mem inside)
      have kept : rest.map (fun i => (name i, after i)) = rest.map fun i => (name i, before i) :=
        List.map_congr_left fun other inside => by rw [others other inside]
      simp [set, kept]
    · have differs : name head ≠ name item := fun same =>
        distinct.1 (same ▸ List.mem_map_of_mem later)
      have kept := elsewhere head (by simp) differs
      simp only [List.map_cons, set, beq_eq_false_iff_ne.mpr differs, kept]
      rw [ih distinct.2 later fun other inside => elsewhere other (by simp [inside])]
      rfl

theorem map_modify {α β : Type} {f : α → β} {change : α → α} {own : β → β} {items : List α}
    {position : Nat} (agree : ∀ x, items[position]? = some x → f (change x) = own (f x)) :
    (items.modify position change).map f = (items.map f).modify position own := by
  refine List.ext_getElem? fun i => ?_
  rw [List.getElem?_map, List.getElem?_modify, List.getElem?_modify, List.getElem?_map]
  cases found : items[i]? with
  | none => rfl
  | some x =>
    by_cases here : position = i
    · subst here
      simp [agree x found]
    · simp [here]

/-- An item that keeps its key changes the entry under that key if no later item has the same key,
and nothing otherwise. -/
theorem lastOfEach_change {κ α : Type} [BEq κ] [LawfulBEq κ] [DecidableEq κ] {key : α → κ}
    {change : α → α} {x : α} (same : key (change x) = key x) (before after : List α) :
    lastOfEach key (before ++ change x :: after) =
      (lastOfEach key (before ++ x :: after)).map fun entry =>
        if entry.1 = key x ∧ key x ∉ after.map key then (entry.1, change entry.2) else entry := by
  have keys : (before ++ change x :: after).map key = (before ++ x :: after).map key := by
    simp [same]
  rw [lastOfEach, lastOfEach, keys, List.map_filterMap]
  refine List.filterMap_congr fun k _ => ?_
  -- The last item of a key is the first from behind, where `after` comes before the change.
  simp only [List.reverse_append, List.reverse_cons, List.append_assoc, List.singleton_append,
    List.find?_append, List.find?_cons, same]
  cases later : after.reverse.find? fun item => key item == k with
  | some z =>
    have keyed : key z = k := by simpa using List.find?_some later
    have member : z ∈ after := List.mem_reverse.mp (List.mem_of_find?_eq_some later)
    have shadowed : ¬ (k = key x ∧ key x ∉ after.map key) := by
      rintro ⟨own, fresh⟩
      exact fresh (own ▸ keyed ▸ List.mem_map_of_mem member)
    simp only [Option.some_or, Option.map_some, if_neg shadowed]
  | none =>
    have fresh : ∀ z ∈ after, key z ≠ k := by simpa using List.find?_eq_none.mp later
    by_cases own : key x = k
    · have last : k ∉ after.map key := by simpa using fresh
      simp [own, last]
    · have differs : (key x == k) = false := beq_eq_false_iff_ne.mpr own
      have other : ¬ k = key x := Ne.symm own
      rw [differs]
      cases before.reverse.find? fun item => key item == k <;> simp [other]

/-- The entry of a key is the item of that key that no later one shares it with. -/
theorem eq_of_mem_lastOfEach {κ α : Type} [BEq κ] [LawfulBEq κ] {key : α → κ} {x : α}
    {before after : List α} {entry : κ × α} (member : entry ∈ lastOfEach key (before ++ x :: after))
    (own : entry.1 = key x) (fresh : key x ∉ after.map key) : entry.2 = x := by
  obtain ⟨earlier, later, split, keyed, none⟩ := mem_lastOfEach member
  have found := find?_reverse_eq_some_iff.mpr ⟨earlier, later, split, keyed, none⟩
  have last : ∀ other ∈ after, key other ≠ entry.1 := fun other inside same =>
    fresh (own ▸ same ▸ List.mem_map_of_mem inside)
  have own := find?_reverse_eq_some_iff.mpr ⟨before, after, rfl, own.symm, last⟩
  exact Option.some.inj (found.symm.trans own)

namespace Schema

theorem fieldsBreakDown_iff {fields : List (String × Occurrence × Schema)} {v : Value} :
    fieldsBreakDown fields v = false ↔ ∀ field ∈ fields,
      (field.1 = "size" → v.refusesSize = false) ∧
        field.2.2.breaksDown (v.seen field.1) = false := by
  induction fields with
  | nil => simp [fieldsBreakDown]
  | cons head rest ih => simp [fieldsBreakDown, ih]

end Schema

namespace Layout
section
variable {fields : List (String × String × Layout)} {wireName : String} {v new : Value}

theorem passes_record_iff : (record fields).Passes v ↔
    v.isRecord = true ∧ v.refusesCopy = false ∧ ∀ field ∈ fields,
      (field.1 = "size" → v.refusesSize = false) ∧ field.2.2.Passes (v.seen field.1) := by
  have checkable (isRecord : v.isRecord = true) : (record fields).schema.breaksDown v = false ↔
      v.refusesCopy = false ∧ ∀ field ∈ fields, (field.1 = "size" → v.refusesSize = false) ∧
        field.2.2.schema.breaksDown (v.seen field.1) = false := by
    simp only [schema, Schema.breaksDown, isRecord, Bool.true_and, Bool.or_eq_false_iff,
      Schema.fieldsBreakDown_iff, shapeFields_eq_map, List.forall_mem_map]
  constructor
  · intro passes
    obtain ⟨isRecord, each⟩ := admits_record.mp passes.admitted
    obtain ⟨copies, inside⟩ := (checkable isRecord).mp passes.checkable
    exact ⟨isRecord, copies, fun field member =>
      ⟨(inside field member).1, (inside field member).2, each field member⟩⟩
  · rintro ⟨isRecord, copies, each⟩
    refine ⟨(checkable isRecord).mpr ⟨copies, fun field member => ?_⟩,
      admits_record.mpr ⟨isRecord, fun field member => (each field member).2.admitted⟩⟩
    exact ⟨(each field member).1, (each field member).2.checkable⟩

theorem barren_of_mem (distinct : soundNames fields = true) {field : String × String × Layout}
    (member : field ∈ fields) : field.1 ≠ Value.parentField := by
  rintro same
  exact (soundNames_iff.mp distinct).2.2 (same ▸ List.mem_map_of_mem member)

theorem passes_put_iff (distinct : soundNames fields = true) (name : String) {inner : Layout}
    (member : (wireName, name, inner) ∈ fields) (unsized : wireName ≠ "size")
    (able : v.canPut = true) (passes : (record fields).Passes v) :
    (record fields).Passes (v.put wireName new) ↔ inner.Passes new := by
  have barren : wireName ≠ Value.parentField := barren_of_mem distinct member
  obtain ⟨_, copies, each⟩ := passes_record_iff.mp passes
  rw [passes_record_iff, Value.refusesCopy_put barren unsized,
    Value.refusesSize_put able barren unsized]
  constructor
  · rintro ⟨_, _, each⟩
    simpa only [Value.seen_put_self able barren] using (each _ member).2
  · intro own
    refine ⟨Value.isRecord_of_canPut (Value.canPut_put able), copies, fun field listed =>
      ⟨(each field listed).1, ?_⟩⟩
    by_cases same : field.1 = wireName
    · obtain rfl := List.inj_on_of_nodup_map (soundNames_iff.mp distinct).1 listed member same
      rwa [Value.seen_put_self able barren]
    · rw [Value.seen_put_other able barren same]
      exact (each field listed).2

theorem entity_put (distinct : soundNames fields = true) {name : String} {inner : Layout}
    (member : (wireName, name, inner) ∈ fields) (able : v.canPut = true) :
    (record fields).entity (v.put wireName new) =
      ((record fields).entity v).put name (inner.entity new) := by
  have barren : wireName ≠ Value.parentField := barren_of_mem distinct member
  obtain ⟨wireNames, names, _⟩ := soundNames_iff.mp distinct
  have elsewhere : ∀ other ∈ fields, other.2.1 ≠ name →
      other.2.2.entity ((v.put wireName new).seen other.1) =
        other.2.2.entity (v.seen other.1) := by
    intro other listed differs
    rw [Value.seen_put_other able barren]
    exact fun same => differs
      (congrArg (·.2.1) (List.inj_on_of_nodup_map wireNames listed member same))
  have set := Fields.map_eq_set names member elsewhere
  rw [Value.seen_put_self able barren] at set
  rw [entity, entity, entityFields_eq_map, entityFields_eq_map]
  exact congrArg Value.record set

theorem passes_alterField_iff (distinct : soundNames fields = true) (name : String)
    {inner : Layout} (member : (wireName, name, inner) ∈ fields) (unsized : wireName ≠ "size")
    (able : v.canPut = true) (passes : (record fields).Passes v) {change : Value → Value} :
    (record fields).Passes (v.alterField wireName change) ↔
      inner.Passes (change (v.get wireName)) :=
  passes_put_iff distinct name member unsized able passes

theorem entity_alterField (distinct : soundNames fields = true) {name : String}
    (inner : Layout) (member : (wireName, name, inner) ∈ fields) (able : v.canPut = true)
    (shown : v.seen wireName = v.get wireName) {change own : Value → Value}
    (agree : inner.entity (change (v.get wireName)) = own (inner.entity (v.get wireName))) :
    (record fields).entity (v.alterField wireName change) =
      ((record fields).entity v).alterField name own := by
  have held : ((record fields).entity v).get name = inner.entity (v.get wireName) :=
    shown ▸ get_entityFields distinct member
  rw [Value.alterField, Value.alterField, entity_put distinct member able, agree, held]

end

section
variable {layout item : Layout} {position : Nat} {change own : Value → Value} {v x : Value}

theorem passes_list_iff (required : item.occurrence = .required)
    (shape : layout.schema = .list item.schema) {items : List Value} :
    layout.Passes (.list items) ↔ ∀ x ∈ items, item.Passes x := by
  have admits : layout.Admits (.list items) ↔ ∀ x ∈ items, item.Admits x := by
    have each : (Schema.list item.schema).Fits (.list items) ↔ ∀ x ∈ items, item.Admits x := by
      simp [Schema.Fits, Admits, Schema.Admits, required]
    rw [← each, ← shape]
    exact ⟨fun admitted => by
      unfold Admits Schema.Admits at admitted
      split at admitted <;> simpa [Value.isVacant] using admitted, admits_of_fits⟩
  have checkable : layout.schema.breaksDown (.list items) = false ↔
      ∀ x ∈ items, item.schema.breaksDown x = false := by
    simp [shape, Schema.breaksDown]
  constructor
  · intro passes x member
    exact ⟨checkable.mp passes.checkable x member, admits.mp passes.admitted x member⟩
  · intro each
    exact ⟨checkable.mpr fun x member => (each x member).checkable,
      admits.mpr fun x member => (each x member).admitted⟩

theorem passes_alterItem_iff (required : item.occurrence = .required)
    (shape : layout.schema = .list item.schema) (passes : layout.Passes v)
    (there : v.listed[position]? = some x) :
    layout.Passes (v.alterItem position change) ↔ item.Passes (change x) := by
  have isList := Value.eq_list_of_listed there
  generalize v.listed = items at isList there
  subst isList
  obtain ⟨inside, held⟩ := List.getElem?_eq_some_iff.mp there
  obtain ⟨before, y, after, split, length, altered⟩ := List.exists_of_modify change inside
  obtain rfl : y = x := by simpa [split, ← length] using held
  have each := (passes_list_iff required shape).mp passes
  rw [Value.alterItem, passes_list_iff required shape, altered]
  simp only [split, List.forall_mem_append, List.forall_mem_cons] at each ⊢
  exact ⟨fun all => all.2.1, fun altered => ⟨each.1, altered, each.2.2⟩⟩

theorem entity_alterItem_list (there : v.listed[position]? = some x)
    (agree : item.entity (change x) = own (item.entity x)) :
    (optionalList item).entity (v.alterItem position change) =
      ((optionalList item).entity v).alterItem position own := by
  have agree : ∀ y, v.listed[position]? = some y →
      item.entity (change y) = own (item.entity y) := by
    intro y found
    rw [there] at found
    rwa [← Option.some.inj found]
  rw [entity, entity, Value.listed_alterItem, map_modify agree]
  rfl

/-- Where a list is read under a key, the item shows only if no later item has the same key. -/
theorem entity_alterItem_keyed {collection : String} {path : List String}
    (there : v.listed[position]? = some x) (same : (change x).keyText path = x.keyText path)
    (agree : item.entity (change x) = own (item.entity x)) :
    (keyed collection path item).entity (v.alterItem position change) =
      ((keyed collection path item).entity v).alterEntry
        (Value.keptKey path v.listed position) own := by
  have isList := Value.eq_list_of_listed there
  generalize v.listed = items at isList there
  subst isList
  obtain ⟨inside, held⟩ := List.getElem?_eq_some_iff.mp there
  obtain ⟨before, y, after, split, length, altered⟩ := List.exists_of_modify change inside
  obtain rfl : y = x := by simpa [split, ← length] using held
  have kept : Value.keptKey path items position =
      if y.keyText path ∈ after.map (Value.keyText path) then none
      else some (y.keyText path) := by
    rw [Value.keptKey, split, ← length, List.drop_left]
  rw [Value.alterItem, altered, entity, entity, Value.listed, Value.listed, Value.alterEntry,
    lastOfEach_change same, List.map_map, List.map_map, kept, split]
  refine congrArg Value.map (List.map_congr_left fun entry member => ?_)
  by_cases shadowed : y.keyText path ∈ after.map (Value.keyText path)
  · simp [shadowed]
  · by_cases own : entry.1 = y.keyText path
    · simp [shadowed, own, eq_of_mem_lastOfEach member own shadowed, agree]
    · simp [shadowed, own]

end
end Layout
end ChatGateway
