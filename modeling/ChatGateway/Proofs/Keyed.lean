import ChatGateway.Keyed
import Mathlib.Data.List.Basic
import Mathlib.Data.List.Induction

/-! What a keyed collection holds after a list has been read into it: under each key its last item,
in the order in which the keys first appear. -/
namespace ChatGateway

/-- The last item of each key, in the order in which the keys first appear. -/
def lastOfEach {κ α : Type} [BEq κ] (key : α → κ) (items : List α) : List (κ × α) :=
  (items.map key).eraseDups.filterMap fun k =>
    (items.reverse.find? fun item => key item == k).map fun item => (k, item)

namespace Fields

variable {κ α : Type} [BEq κ]

/-- A list with distinct names is told by its names and what is found under them. -/
theorem eq_filterMap_lookup [LawfulBEq κ] {fields : List (κ × α)}
    (distinct : (fields.map Prod.fst).Nodup) : fields =
      (fields.map Prod.fst).filterMap fun name =>
        (fields.lookup name).map fun value => (name, value) := by
  induction fields with
  | nil => rfl
  | cons head rest ih =>
    obtain ⟨name, value⟩ := head
    simp only [List.map_cons, List.nodup_cons] at distinct
    have others : ∀ other ∈ rest.map Prod.fst,
        ((name, value) :: rest).lookup other = rest.lookup other := by
      intro other member
      have differs : (other == name) = false := beq_eq_false_iff_ne.mpr fun same =>
        distinct.1 (same ▸ member)
      rw [List.lookup_cons, differs]
    simp only [List.map_cons, List.filterMap_cons, List.lookup_cons_self, Option.map_some]
    rw [List.filterMap_congr fun other member => by rw [others other member], ← ih distinct.2]

theorem set_of_not_mem [LawfulBEq κ] {name : κ} (value : α) {fields : List (κ × α)}
    (fresh : name ∉ fields.map Prod.fst) : set name value fields = fields ++ [(name, value)] := by
  induction fields with
  | nil => rfl
  | cons head rest ih =>
    simp only [List.map_cons, List.mem_cons, not_or] at fresh
    have differs : (head.1 == name) = false := beq_eq_false_iff_ne.mpr (Ne.symm fresh.1)
    simp [set, differs, ih fresh.2]

/-- Setting commutes with renaming and converting, if no two names become one. -/
theorem set_map {ν β : Type} [BEq ν] (rename : κ → ν) (convert : α → β)
    (faithful : ∀ a b, (rename a == rename b) = (a == b)) (name : κ) (value : α)
    (fields : List (κ × α)) :
    set (rename name) (convert value) (fields.map (Prod.map rename convert)) =
      (set name value fields).map (Prod.map rename convert) := by
  induction fields with
  | nil => rfl
  | cons head rest ih =>
    simp only [List.map_cons, set, Prod.map_fst, faithful, ih]
    split <;> rfl

end Fields

section
variable {κ α : Type} [BEq κ] [LawfulBEq κ] {key : α → κ} {items : List α}

theorem nodup_eraseDups (keys : List κ) : keys.eraseDups.Nodup := by
  induction keys using List.reverseRecOn with
  | nil => exact List.nodup_nil
  | append_singleton keys k ih =>
    rw [List.eraseDups_append]
    by_cases old : k ∈ keys
    · simp [List.removeAll, old, ih]
    · simp [List.removeAll, old, List.eraseDups_cons, List.nodup_append, ih]
      rintro other member rfl
      exact old member

/-- The keys of a list into which items are set one after the other. -/
theorem keys_foldl_set : (items.foldl (fun fields item => Fields.set (key item) item fields)
    []).map Prod.fst = (items.map key).eraseDups := by
  induction items using List.reverseRecOn with
  | nil => rfl
  | append_singleton items item ih =>
    rw [List.foldl_append, List.foldl_cons, List.foldl_nil, Fields.keys_set, ih, List.map_append,
      List.eraseDups_append]
    by_cases old : key item ∈ items.map key
    · simp_all [List.removeAll]
    · simp_all [List.removeAll, List.eraseDups_cons]

theorem lookup_foldl_set (k : κ) :
    (items.foldl (fun fields item => Fields.set (key item) item fields) []).lookup k =
      items.reverse.find? fun item => key item == k := by
  induction items using List.reverseRecOn with
  | nil => rfl
  | append_singleton items item ih =>
    rw [List.foldl_append, List.foldl_cons, List.foldl_nil, Fields.lookup_set, ih,
      List.reverse_append, List.reverse_singleton, List.singleton_append]
    by_cases same : key item = k
    · simp [same]
    · simp [same, Ne.symm same]

/-- Setting items one after the other leaves the last of each key. -/
theorem foldl_set :
    items.foldl (fun fields item => Fields.set (key item) item fields) [] =
      lastOfEach key items := by
  have distinct := nodup_eraseDups (items.map key)
  rw [← keys_foldl_set] at distinct
  rw [Fields.eq_filterMap_lookup distinct, keys_foldl_set, lastOfEach]
  simp only [lookup_foldl_set]

theorem keys_lastOfEach : (lastOfEach key items).map Prod.fst = (items.map key).eraseDups := by
  rw [← foldl_set, keys_foldl_set]

/-- What is found from the end is the item that no later one shares its key with. -/
theorem find?_reverse_eq_some_iff {k : κ} {item : α} :
    (items.reverse.find? fun item => key item == k) = some item ↔
      ∃ before after, items = before ++ item :: after ∧ key item = k ∧
        ∀ later ∈ after, key later ≠ k := by
  rw [List.find?_eq_some_iff_append]
  constructor
  · rintro ⟨own, after, before, split, none⟩
    refine ⟨before.reverse, after.reverse, ?_, eq_of_beq own, ?_⟩
    · rw [← List.reverse_inj, split]
      simp
    · intro later member
      simpa using none later (List.mem_reverse.mp member)
  · rintro ⟨before, after, rfl, own, none⟩
    refine ⟨beq_iff_eq.mpr own, after.reverse, before.reverse, by simp, ?_⟩
    intro later member
    simpa using none later (List.mem_reverse.mp member)

/-- An entry comes from an item of its key that no later item shares. -/
theorem mem_lastOfEach {entry : κ × α} (member : entry ∈ lastOfEach key items) :
    ∃ before after, items = before ++ entry.2 :: after ∧ key entry.2 = entry.1 ∧
      ∀ other ∈ after, key other ≠ entry.1 := by
  obtain ⟨k, _, found⟩ := List.mem_filterMap.mp member
  obtain ⟨item, last, rfl⟩ := Option.map_eq_some_iff.mp found
  exact find?_reverse_eq_some_iff.mp last

/-- Where keys differ every item is the last of its own. -/
theorem lastOfEach_of_nodup (distinct : (items.map key).Nodup) :
    lastOfEach key items = items.map fun item => (key item, item) := by
  rw [← foldl_set]
  induction items using List.reverseRecOn with
  | nil => rfl
  | append_singleton items item ih =>
    simp only [List.map_append, List.map_singleton, List.nodup_append, List.mem_singleton,
      forall_eq] at distinct
    have fresh : key item ∉ (items.map fun item => (key item, item)).map Prod.fst := by
      simpa using distinct.2.2
    rw [List.foldl_append, List.foldl_cons, List.foldl_nil, ih distinct.1,
      Fields.set_of_not_mem item fresh, List.map_append, List.map_singleton]

end

namespace Keyed

/-- The calls can be made before their values are put in. -/
theorem decodeInto_eq_map {ι κ α : Type} [BEq κ] (decodeItem : ι → Traced α) (keyOf : α → κ)
    (duplicate : κ → Entry) (c : Keyed κ α) (items : List ι) :
    decodeInto decodeItem keyOf duplicate c items =
      decodeInto id keyOf duplicate c (items.map decodeItem) := by
  induction items generalizing c with
  | nil => rfl
  | cons item rest ih =>
    simp only [decodeInto, List.map_cons, ih]
    rfl

theorem decode_map {ι μ κ α : Type} [BEq κ] (decodeItem : μ → Traced α) (f : ι → μ)
    (keyOf : α → κ) (duplicate : κ → Entry) (items : List ι) :
    decode (items.map f) decodeItem keyOf duplicate =
      decode items (fun item => decodeItem (f item)) keyOf duplicate := by
  rw [decode, decode, decodeInto_eq_map, List.map_map,
    decodeInto_eq_map fun item => decodeItem (f item)]
  rfl

/-- What is read depends on nothing but the calls. -/
theorem decode_congr {ι κ α : Type} [BEq κ] {decodeItem : ι → Traced α} {xs ys : List ι}
    (same : xs.map decodeItem = ys.map decodeItem) (keyOf : α → κ) (duplicate : κ → Entry) :
    decode xs decodeItem keyOf duplicate = decode ys decodeItem keyOf duplicate := by
  rw [decode, decode, decodeInto_eq_map, same, ← decodeInto_eq_map]

theorem map_zipIdx_fst {ι β : Type} (f : ι → β) (items : List ι) :
    items.zipIdx.map (fun entry => f entry.1) = items.map f := by
  have split : (fun entry : ι × Nat => f entry.1) = f ∘ Prod.fst := rfl
  rw [split, ← List.map_map, List.zipIdx_map_fst]

/-- The positions play no part where items are read alike wherever they stand. -/
theorem decodeIndexed_const {ι κ α : Type} [BEq κ] (items : Option (List ι))
    (decodeItem : ι → Traced α) (keyOf : α → κ) (duplicate : κ → Entry) :
    decodeIndexed items (fun item _ => decodeItem item) keyOf duplicate =
      decode (items.getD []) decodeItem keyOf duplicate := by
  rw [decodeIndexed, decode, decode, decodeInto_eq_map, decodeInto_eq_map decodeItem]
  exact congrArg _ (map_zipIdx_fst decodeItem _)

/-- A map is read from the items of its list, of which a missing one has none. -/
theorem read_form {item : Form} {keyOf : Value → Value} {collection : String} {v : Value}
    {items : List Value} (listed : v.orElse (.list []) = .list items) (context : Option Context) :
    (form item keyOf collection).read v context = (do
      let c ← decode items (item.read · context) keyOf (Entry.duplicateKey collection · context)
      return .map c.entries) := by
  have given : (if v.isVacant then .ok none else some <$> v.values) =
      (Except.ok (if v.isVacant then none else some items) : Except Failure _) := by
    cases vacant : v.isVacant with
    | true => rfl
    | false =>
      obtain rfl : v = .list items := by simpa [Value.orElse, vacant] using listed
      rfl
  have all : (if v.isVacant then none else some items).getD [] = items := by
    cases vacant : v.isVacant with
    | true =>
      obtain rfl : [] = items := by simpa [Value.orElse, vacant] using listed
      rfl
    | false => rfl
  simp only [form, given, Traced.ofExcept_ok_bind, decodeIndexed_const, all]

section
variable {ι κ ν α : Type} [BEq κ] [BEq ν] {rename : κ → ν} {key : ι → κ}
  {decodeItem : ι → Traced α} {keyOf : α → ν} {read : ι → α} {items : List ι}

/-- Reading sets one item after the other, on top of what is there. -/
theorem outcome_decodeInto (faithful : ∀ a b, (rename a == rename b) = (a == b))
    (each : ∀ item ∈ items,
      (decodeItem item).outcome = .ok (read item) ∧ keyOf (read item) = rename (key item))
    (duplicate : ν → Entry) {c : Keyed ν α} {held : List (κ × ι)}
    (holds : c.entries = held.map (Prod.map rename read)) :
    ∃ result, (decodeInto decodeItem keyOf duplicate c items).outcome = .ok result ∧
      result.entries = (items.foldl (fun fields item => Fields.set (key item) item fields)
        held).map (Prod.map rename read) := by
  induction items generalizing c held with
  | nil => exact ⟨c, rfl, holds⟩
  | cons item rest ih =>
    obtain ⟨decoded, keyed⟩ := each item (by simp)
    have after : (c.insert (keyOf (read item)) (read item)).entries =
        (Fields.set (key item) item held).map (Prod.map rename read) := by
      simp only [insert, holds, keyed, Fields.set_map _ _ faithful]
    obtain ⟨result, rest, entries⟩ := ih (fun item member => each item (by simp [member])) after
    refine ⟨result, ?_, entries⟩
    simp only [decodeInto, Traced.outcome_bind, decoded, Except.bind]
    split <;> exact rest

/-- A list is read into the last item of each key, in the order in which the keys first appear. -/
theorem outcome_decode [LawfulBEq κ] (faithful : ∀ a b, (rename a == rename b) = (a == b))
    (each : ∀ item ∈ items,
      (decodeItem item).outcome = .ok (read item) ∧ keyOf (read item) = rename (key item))
    (duplicate : ν → Entry) :
    ∃ result, (decode items decodeItem keyOf duplicate).outcome = .ok result ∧
      result.entries = (lastOfEach key items).map (Prod.map rename read) := by
  rw [← foldl_set]
  exact outcome_decodeInto faithful each duplicate rfl

end
end Keyed
end ChatGateway
