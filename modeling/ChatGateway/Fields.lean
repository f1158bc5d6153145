import ChatGateway.Digits

/-!
Ordered name/value lists. Setting a name that is present keeps its place and takes the new value;
a new name goes last. Names are compared by `==`. Main statements: `keys_set`, `distinct_keys_set`
and `lookup_set`.
-/

namespace ChatGateway.Fields

variable {κ α : Type} [BEq κ]

def set (name : κ) (value : α) : List (κ × α) → List (κ × α)
  | [] => [(name, value)]
  | entry :: rest =>
    if entry.1 == name then (entry.1, value) :: rest else entry :: set name value rest

def setAll (fields updates : List (κ × α)) : List (κ × α) :=
  updates.foldl (fun acc entry => set entry.1 entry.2 acc) fields

/-- The position that a name denotes if it is the plain decimal text of one. -/
def position? (name : String) : Option Nat :=
  match name.toList with
  | ['0'] => some 0
  | c :: rest =>
    if c ≠ '0' ∧ (c :: rest).all Char.isDigit ∧ rest.length < 10 then
      let n := Digits.decimal (c :: rest)
      if n < 4294967295 then some n else none
    else none
  | [] => none

/-- The entries of a record in listing order: names that denote positions come first, in numeric
order, the others follow in order of first appearance. Of a repeated name the last value counts. -/
def listed (entries : List (String × α)) : List (String × α) :=
  let fields := setAll [] entries
  let positions := fields.filterMap fun entry =>
    (position? entry.1).map fun position => (position, entry)
  (positions.mergeSort fun a b => a.1 ≤ b.1).map Prod.snd ++
    fields.filter fun entry => (position? entry.1).isNone

/-- The names after setting one: it is added at the end unless it is there. -/
theorem keys_set (name : κ) (value : α) (fields : List (κ × α)) :
    (set name value fields).map Prod.fst =
      if (fields.map Prod.fst).any (· == name) then fields.map Prod.fst
      else fields.map Prod.fst ++ [name] := by
  induction fields with
  | nil => simp [set]
  | cons entry rest ih =>
    simp only [set]
    split
    · rename_i same
      simp [same]
    · rename_i differs
      simp only [List.map_cons, ih, List.any_cons, differs, Bool.false_or]
      split <;> simp

/-- Names that differ still differ after setting one. -/
theorem distinct_keys_set {name : κ} {value : α} {fields : List (κ × α)}
    (h : (fields.map Prod.fst).Pairwise fun a b => (a == b) = false) :
    ((set name value fields).map Prod.fst).Pairwise fun a b => (a == b) = false := by
  rw [keys_set]
  split
  · exact h
  · rename_i fresh
    rw [List.pairwise_append]
    refine ⟨h, List.pairwise_singleton _ _, ?_⟩
    intro a ha b hb
    obtain rfl := List.mem_singleton.mp hb
    exact Bool.eq_false_iff.mpr fun same => fresh (List.any_eq_true.mpr ⟨a, ha, same⟩)

theorem lookup_set [LawfulBEq κ] (name other : κ) (value : α) (fields : List (κ × α)) :
    (set name value fields).lookup other =
      if other == name then some value else fields.lookup other := by
  induction fields with
  | nil => by_cases h : other == name <;> simp [set, List.lookup_cons, h]
  | cons entry rest ih =>
    obtain ⟨key, old⟩ := entry
    simp only [set]
    split
    · rename_i same
      obtain rfl := eq_of_beq same
      by_cases h : other == key <;> simp [List.lookup_cons, h]
    · rename_i differs
      by_cases h : other == key
      · have : (other == name) = false := by
          rw [eq_of_beq h]
          exact Bool.eq_false_iff.mpr differs
        simp [List.lookup_cons, h, this]
      · simp [List.lookup_cons, h, ih]

/-- Of several values set under one name the last is found. -/
theorem lookup_setAll [LawfulBEq κ] (fields updates : List (κ × α)) (name : κ) :
    (setAll fields updates).lookup name =
      (updates.reverse.lookup name).or (fields.lookup name) := by
  induction updates generalizing fields with
  | nil => rfl
  | cons entry rest ih =>
    obtain ⟨key, value⟩ := entry
    have next : setAll fields ((key, value) :: rest) = setAll (set key value fields) rest := rfl
    rw [next, ih, lookup_set, List.reverse_cons, List.lookup_append, Option.or_assoc,
      List.lookup_cons]
    by_cases same : name == key <;> simp [same]

theorem set_of_lookup [LawfulBEq κ] {name : κ} {value : α} {fields : List (κ × α)}
    (held : fields.lookup name = some value) : set name value fields = fields := by
  induction fields with
  | nil => contradiction
  | cons entry rest ih =>
    rw [List.lookup_cons] at held
    simp only [set]
    split at held
    · rename_i same
      obtain rfl := Option.some.inj held
      rw [if_pos (by rw [eq_of_beq same, beq_self_eq_true])]
    · rename_i differs
      have other : (entry.1 == name) = false := by
        rw [BEq.comm]
        exact differs
      rw [other, ih held]
      rfl

/-- Setting what is there already changes nothing. -/
theorem setAll_of_lookup [LawfulBEq κ] {fields updates : List (κ × α)}
    (held : ∀ entry ∈ updates, fields.lookup entry.1 = some entry.2) :
    setAll fields updates = fields := by
  induction updates with
  | nil => rfl
  | cons entry rest ih =>
    have next : setAll fields (entry :: rest) = setAll (set entry.1 entry.2 fields) rest := rfl
    rw [next, set_of_lookup (held entry (by simp))]
    exact ih fun other member => held other (by simp [member])

theorem mem_of_lookup [LawfulBEq κ] {name : κ} {value : α} {fields : List (κ × α)}
    (found : fields.lookup name = some value) : (name, value) ∈ fields := by
  obtain ⟨before, after, whole, _⟩ := List.lookup_eq_some_iff.mp found
  simp [whole]

/-- Where names differ each entry is found under its name. -/
theorem lookup_of_mem [LawfulBEq κ] {fields : List (κ × α)}
    (distinct : (fields.map Prod.fst).Nodup) {entry : κ × α} (member : entry ∈ fields) :
    fields.lookup entry.1 = some entry.2 := by
  obtain ⟨before, after, rfl⟩ := List.append_of_mem member
  rw [List.lookup_eq_some_iff]
  refine ⟨before, after, rfl, fun other earlier => ?_⟩
  rw [List.map_append, List.map_cons, List.nodup_append] at distinct
  exact bne_iff_ne.mpr (distinct.2.2 _ (List.mem_map_of_mem earlier) _ List.mem_cons_self).symm

end ChatGateway.Fields
