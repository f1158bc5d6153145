import ChatGateway.Proofs.Number
import ChatGateway.Schema

/-! The values of a schema, said without problems and paths. `problems_eq_nil_iff` shows that the
list of problems is empty for exactly these values, wherever they stand. -/
namespace ChatGateway

/-- A natural number within the safe limit. -/
def Value.IsCount (v : Value) : Prop :=
  ∃ n ≤ Number.safeLimit, v = .ofNat n

/-- The texts of a form. -/
def TextForm.Accepts : TextForm → String → Prop
  | .free, _ => True
  | .digits most, s => isDigits most s = true
  | .uri, s => s ≠ "" ∧ Uri.accepts s = true
  | .oneOf choices, s => s ≠ "" ∧ s ∈ choices

namespace Schema

/-- A property of all schemas follows if it passes from the parts of a schema to the whole. -/
@[elab_as_elim, induction_eliminator]
theorem induct {motive : Schema → Prop}
    (text : ∀ form, motive (.text form)) (number : motive .number) (count : motive .count)
    (boolean : motive .boolean) (pair : motive .pair)
    (record : ∀ fields, (∀ field ∈ fields, motive field.2.2) → motive (.record fields))
    (list : ∀ item, motive item → motive (.list item))
    (either : ∀ first second, motive first → motive second → motive (.either first second))
    (shape : Schema) : motive shape := by
  refine @Schema.rec motive (fun fields => ∀ field ∈ fields, motive field.2.2)
    (fun field => motive field.2.2) (fun field => motive field.2)
    text number count boolean pair record list either ?_ ?_ ?_ ?_ shape
  · intro field member
    contradiction
  · intro head rest ofHead ofRest field member
    rcases List.mem_cons.mp member with rfl | later
    · exact ofHead
    · exact ofRest field later
  · intro name rest ofRest
    exact ofRest
  · intro occurrence inner ofInner
    exact ofInner

mutual

/-- The value has the shape. -/
def Fits : Schema → Value → Prop
  | .text form, v => ∃ s, v = .text s ∧ form.Accepts s
  | .number, v => ∃ q : Rat, v = .number (.finite q) ∧
      -(Number.safeLimit : Rat) ≤ q ∧ q ≤ Number.safeLimit
  | .count, v => v.IsCount
  | .boolean, v => ∃ b, v = .bool b
  | .pair, v => ∃ a b, v = .list [a, b] ∧ a.IsCount ∧ b.IsCount
  | .record fields, v => v.isRecord = true ∧ FieldsFit fields v
  | .list item, v => ∃ items, v = .list items ∧ ∀ x ∈ items, item.Fits x
  | .either first second, v => first.Fits v ∨ second.Fits v

/-- The listed fields of a record have their shapes. -/
def FieldsFit : List (String × Occurrence × Schema) → Value → Prop
  | [], _ => True
  | (name, occurrence, shape) :: rest, v =>
    (match occurrence with
      | .required => shape.Fits (v.seen name)
      | .optional => v.seen name = .absent ∨ shape.Fits (v.seen name)
      | .nullable => (v.seen name).isVacant = true ∨ shape.Fits (v.seen name)) ∧
    FieldsFit rest v

end

/-- What a field of a record may hold, where it may be missing. -/
def Admits (occurrence : Occurrence) (shape : Schema) (v : Value) : Prop :=
  match occurrence with
  | .required => shape.Fits v
  | .optional => v = .absent ∨ shape.Fits v
  | .nullable => v.isVacant = true ∨ shape.Fits v

theorem fits_boolean {v : Value} : Schema.boolean.Fits v ↔ ∃ b, v = .bool b := by
  simp only [Fits]

theorem fits_count {v : Value} : Schema.count.Fits v ↔ v.IsCount := by
  simp only [Fits]

theorem fits_list {item : Schema} {v : Value} :
    (Schema.list item).Fits v ↔ ∃ items, v = .list items ∧ ∀ x ∈ items, item.Fits x := by
  simp only [Fits]

theorem fieldsFit_iff {fields : List (String × Occurrence × Schema)} {v : Value} :
    FieldsFit fields v ↔ ∀ field ∈ fields, Admits field.2.1 field.2.2 (v.seen field.1) := by
  induction fields with
  | nil => simp [FieldsFit]
  | cons field rest ih => simp [FieldsFit, Admits, ih]

theorem not_vacant_of_isRecord {v : Value} (record : v.isRecord = true) : v.isVacant = false := by
  cases v <;> first | rfl | contradiction

theorem not_vacant_of_isCount {v : Value} (count : v.IsCount) : v.isVacant = false := by
  obtain ⟨n, _, rfl⟩ := count
  rfl

/-- Nothing that is missing has a shape. -/
theorem not_vacant_of_fits {shape : Schema} {v : Value} (fits : shape.Fits v) :
    v.isVacant = false := by
  induction shape generalizing v with
  | text form =>
    simp only [Fits] at fits
    obtain ⟨s, rfl, _⟩ := fits
    rfl
  | number =>
    simp only [Fits] at fits
    obtain ⟨q, rfl, _⟩ := fits
    rfl
  | count =>
    simp only [Fits] at fits
    exact not_vacant_of_isCount fits
  | boolean =>
    simp only [Fits] at fits
    obtain ⟨b, rfl⟩ := fits
    rfl
  | pair =>
    simp only [Fits] at fits
    obtain ⟨a, b, rfl, _⟩ := fits
    rfl
  | record fields _ =>
    simp only [Fits] at fits
    exact not_vacant_of_isRecord fits.1
  | list item _ =>
    simp only [Fits] at fits
    obtain ⟨items, rfl, _⟩ := fits
    rfl
  | either first second ofFirst ofSecond =>
    simp only [Fits] at fits
    exact fits.elim ofFirst ofSecond

theorem admits_of_fits {occurrence : Occurrence} {shape : Schema} {v : Value}
    (fits : shape.Fits v) : Admits occurrence shape v := by
  cases occurrence with
  | required => exact fits
  | optional | nullable => exact .inr fits

theorem fits_of_admits {occurrence : Occurrence} {shape : Schema} {v : Value}
    (there : v.isVacant = false) (admitted : Admits occurrence shape v) : shape.Fits v := by
  cases occurrence with
  | required => exact admitted
  | optional =>
    refine admitted.resolve_left ?_
    rintro rfl
    contradiction
  | nullable => exact admitted.resolve_left (by simp [there])

theorem not_fits_absent {shape : Schema} : ¬ shape.Fits .absent := fun fits => by
  simpa [Value.isVacant] using not_vacant_of_fits fits

theorem checkNumber_eq_nil_iff {v : Value} :
    checkNumber v = [] ↔ Schema.number.Fits v := by
  simp only [Fits]
  unfold checkNumber
  split
  · simp
  · simp [← not_lt]
  · rename_i other
    simp only [reduceCtorEq, false_iff]
    rintro ⟨q, rfl, _⟩
    exact other q rfl

theorem checkCount_number {n : Number} (safe : checkNumber (.number n) = []) :
    checkCount (.number n) = (if n.integer?.isSome then [] else [.notWhole]) ++
      match n with
      | .finite q => if q < 0 then [.negative] else []
      | _ => [] := by
  cases n <;> simp only [checkCount, safe]

theorem checkCount_eq_nil_iff {v : Value} : checkCount v = [] ↔ v.IsCount := by
  constructor
  · intro none
    have safe : checkNumber v = [] := by
      unfold checkCount at none
      split at none
      · assumption
      · exact none
    obtain ⟨q, rfl, lower, upper⟩ := by simpa only [Fits] using checkNumber_eq_nil_iff.mp safe
    simp only [checkCount_number safe, List.append_eq_nil_iff, ite_eq_left_iff, reduceCtorEq,
      imp_false, not_not, ite_eq_right_iff, not_lt] at none
    obtain ⟨k, whole⟩ := Option.isSome_iff_exists.mp none.1
    obtain rfl := Number.finite.inj (Number.eq_ofInt_of_integer? whole)
    obtain ⟨n, rfl⟩ := Int.eq_ofNat_of_zero_le (by exact_mod_cast none.2 : 0 ≤ k)
    exact ⟨n, by exact_mod_cast upper, rfl⟩
  · rintro ⟨n, safe, rfl⟩
    have nonneg : ¬ ((n : Rat) < 0) := not_lt.mpr (Nat.cast_nonneg n)
    have inside : checkNumber (.number (.finite n)) = [] := by
      refine checkNumber_eq_nil_iff.mpr ?_
      simp only [Fits]
      refine ⟨n, rfl, ?_, by exact_mod_cast safe⟩
      exact le_trans (neg_nonpos.mpr (Nat.cast_nonneg _)) (Nat.cast_nonneg n)
    have whole : (Number.finite n).integer? = some (n : Int) := Number.integer?_ofNat n
    rw [Value.ofNat, Number.ofNat, checkCount_number inside]
    simp [whole, nonneg]

theorem check_text_eq_nil_iff {form : TextForm} {nullable : Bool} {v : Value} :
    form.check nullable v = [] ↔ ∃ s, v = .text s ∧ form.Accepts s := by
  cases v with
  | text s =>
    cases form with
    | free => simp [TextForm.check, TextForm.notListed, TextForm.violations, TextForm.Accepts]
    | digits most =>
      by_cases empty : s = "" <;>
        simp [TextForm.check, TextForm.notListed, TextForm.violations, TextForm.Accepts, isDigits,
          empty]
    | uri =>
      by_cases empty : s = "" <;>
        simp [TextForm.check, TextForm.notListed, TextForm.violations, TextForm.Accepts, empty]
    | oneOf choices =>
      simp [TextForm.check, TextForm.notListed, TextForm.violations, TextForm.Accepts,
        Value.text?, and_comm]
  | _ => simp [TextForm.check]

theorem pairFindings_zero {path : Path} {whole : Value} {position : Nat} {items : List Value} :
    pairFindings path whole 0 position items = [] ↔ items = [] := by
  cases items with
  | nil => simp [pairFindings]
  | cons head rest => cases head <;> simp [pairFindings]

theorem pairFindings_succ {path : Path} {whole : Value} {lacking position : Nat}
    {items : List Value} : pairFindings path whole (lacking + 1) position items = [] ↔
      ∃ head rest, items = head :: rest ∧ head.IsCount ∧
        pairFindings path whole lacking (position + 1) rest = [] := by
  simp only [← checkCount_eq_nil_iff]
  cases items with
  | nil => simp [pairFindings]
  | cons head rest => cases head <;> simp [pairFindings, placed, checkCount, checkNumber]

theorem pairFindings_cons {path : Path} {whole v : Value} {lacking position : Nat}
    (there : v ≠ .absent) (rest : List Value) :
    pairFindings path whole (lacking + 1) position (v :: rest) =
      placed (path.item position) v (checkCount v) ++
        pairFindings path whole lacking (position + 1) rest := by
  cases v <;> first | rfl | contradiction

/-- What can be wrong with a list of items that should be a pair. -/
inductive PairFault (path : Path) (whole : Value) (items : List Value) : Finding → Prop
  | tooFew (lacking : Nat) : PairFault path whole items ⟨path, .tooFew lacking, whole⟩
  | tooMany : PairFault path whole items ⟨path, .tooMany 2, whole⟩
  | hole (position : Nat) : PairFault path whole items ⟨path.item position, .hole, .absent⟩
  | item (position : Nat) {v : Value} {violation : Violation} : v ∈ items →
      violation ∈ checkCount v → PairFault path whole items ⟨path.item position, violation, v⟩

theorem PairFault.cons {path : Path} {whole : Value} {items : List Value} {finding : Finding}
    (fault : PairFault path whole items finding) (head : Value) :
    PairFault path whole (head :: items) finding := by
  cases fault with
  | tooFew lacking => exact .tooFew lacking
  | tooMany => exact .tooMany
  | hole position => exact .hole position
  | item position member broken => exact .item position (List.mem_cons_of_mem _ member) broken

theorem pairFault_of_mem {path : Path} {whole : Value} {lacking position : Nat}
    {items : List Value} {finding : Finding}
    (member : finding ∈ pairFindings path whole lacking position items) :
    PairFault path whole items finding := by
  induction items generalizing lacking position with
  | nil =>
    cases lacking with
    | zero => contradiction
    | succ lacking =>
      obtain rfl := List.mem_singleton.mp member
      exact .tooFew _
  | cons head rest ih =>
    by_cases hole : head = .absent
    · subst hole
      rw [pairFindings] at member
      rcases List.mem_cons.mp member with rfl | later
      · exact .hole position
      · exact (ih later).cons _
    · cases lacking with
      | zero =>
        have own : pairFindings path whole 0 position (head :: rest) =
            [⟨path, .tooMany 2, whole⟩] := by
          cases head <;> first | rfl | contradiction
        rw [own] at member
        obtain rfl := List.mem_singleton.mp member
        exact .tooMany
      | succ lacking =>
        rw [pairFindings_cons hole] at member
        rcases List.mem_append.mp member with own | later
        · obtain ⟨violation, broken, rfl⟩ := List.mem_map.mp own
          exact .item position List.mem_cons_self broken
        · exact (ih later).cons _

theorem itemFindings_eq_nil_iff {path : Path} {check : Path → Value → List Finding}
    {item : Schema} (ofItem : ∀ path v, check path v = [] ↔ item.Fits v) {items : List Value}
    {position : Nat} :
    itemFindings path check position items = [] ↔ ∀ x ∈ items, item.Fits x := by
  induction items generalizing position with
  | nil => simp [itemFindings]
  | cons head rest ih =>
    cases head with
    | absent =>
      have hole : ¬ item.Fits .absent := not_fits_absent
      simp [itemFindings, hole]
    | _ => simp [itemFindings, ofItem, ih]

/-- The problems of one field, which may be missing. -/
theorem fieldProblems_cons (name : String) (occurrence : Occurrence) (shape : Schema)
    (rest : List (String × Occurrence × Schema)) (path : Path) (v : Value)
    (ofShape : ∀ nullable path v, shape.problems nullable path v = [] ↔ shape.Fits v) :
    fieldProblems ((name, occurrence, shape) :: rest) path v = [] ↔
      Admits occurrence shape (v.seen name) ∧ fieldProblems rest path v = [] := by
  have missing : ¬ shape.Fits .absent := not_fits_absent
  cases occurrence <;> cases held : v.seen name <;>
    simp [fieldProblems, held, Admits, ofShape, Value.isVacant, missing]

/-- A value has no problems exactly if it has the shape. -/
theorem problems_eq_nil_iff {shape : Schema} {nullable : Bool} {path : Path} {v : Value} :
    shape.problems nullable path v = [] ↔ shape.Fits v := by
  induction shape generalizing nullable path v with
  | text form => simp only [problems, placed, List.map_eq_nil_iff, check_text_eq_nil_iff, Fits]
  | number => simp only [problems, placed, List.map_eq_nil_iff, checkNumber_eq_nil_iff]
  | count => simp only [problems, placed, List.map_eq_nil_iff, checkCount_eq_nil_iff, Fits]
  | boolean => cases v <;> simp [problems, Fits]
  | pair =>
    cases v with
    | list items =>
      simp only [problems, pairFindings_succ, pairFindings_zero, Fits, Value.list.injEq]
      constructor
      · rintro ⟨a, _, rfl, ha, b, _, rfl, hb, rfl⟩
        exact ⟨a, b, rfl, ha, hb⟩
      · rintro ⟨a, b, rfl, ha, hb⟩
        exact ⟨a, _, rfl, ha, b, _, rfl, hb, rfl⟩
    | _ => simp [problems, Fits]
  | record fields ofFields =>
    have each : fieldProblems fields path v = [] ↔ FieldsFit fields v := by
      rw [fieldsFit_iff]
      clear nullable
      induction fields with
      | nil => simp [fieldProblems]
      | cons field rest ih =>
        rw [fieldProblems_cons _ _ _ _ _ _ fun _ _ _ => ofFields field (by simp),
          ih fun other member => ofFields other (by simp [member])]
        simp
    simp only [problems, Fits]
    split <;> simp_all
  | list item ofItem =>
    cases v with
    | list items =>
      simp only [problems, Fits, Value.list.injEq, exists_eq_left']
      exact itemFindings_eq_nil_iff fun _ _ => ofItem
    | _ => simp [problems, Fits]
  | either first second ofFirst ofSecond =>
    simp only [problems, Fits]
    rw [← @ofFirst false path, ← @ofSecond false path]
    split <;> simp_all

theorem check_eq_nil_iff {shape : Schema} {payload : Value} :
    shape.check payload = [] ↔ shape.Fits payload := by
  cases payload with
  | absent => simp [check, not_fits_absent]
  | _ => simp [check, problems_eq_nil_iff]

/-- The checker accepts exactly the values of the schema. -/
theorem accepts_iff_fits {shape : Schema} {payload : Value} :
    shape.accepts payload = true ↔ shape.Fits payload := by
  rw [accepts, List.isEmpty_iff, check_eq_nil_iff]

end Schema
end ChatGateway
