import ChatGateway.Cut
import Mathlib.Data.List.Basic

/-! What cutting a text gives, and which texts are cut where they were joined. -/
namespace ChatGateway.Cut

variable {separator c : Char} {text rest part : List Char}

theorem first_of_not_mem (free : separator ∉ text) : first separator text = (text, none) := by
  induction text with
  | nil => rfl
  | cons c rest ih =>
    simp only [List.mem_cons, not_or] at free
    rw [first, if_neg (Ne.symm free.1), ih free.2]

theorem first_append (free : separator ∉ text) :
    first separator (text ++ separator :: rest) = (text, some rest) := by
  induction text with
  | nil => exact if_pos rfl
  | cons c text ih =>
    simp only [List.mem_cons, not_or] at free
    rw [List.cons_append, first, if_neg (Ne.symm free.1), ih free.2]

/-- An optional part after a separator is cut off again. -/
theorem first_option (free : separator ∉ text) (after : Option (List Char)) :
    first separator (text ++ (after.map (separator :: ·)).getD []) = (text, after) := by
  cases after with
  | none =>
    rw [Option.map_none, Option.getD_none, List.append_nil]
    exact first_of_not_mem free
  | some rest => exact first_append free

/-- A text ends where a character follows that cannot be part of it, or nothing. -/
theorem span_exact {inside : Char → Bool} (all : ∀ c ∈ text, inside c = true)
    (ends : ∀ c, rest.head? = some c → inside c = false) :
    (text ++ rest).takeWhile inside = text ∧ (text ++ rest).dropWhile inside = rest := by
  rw [List.takeWhile_append_of_pos all, List.dropWhile_append_of_pos all]
  cases rest with
  | nil => exact ⟨List.append_nil text, rfl⟩
  | cons c tail => simp [ends c rfl]

/-- A text without the separator ends where the separator or nothing follows. -/
theorem span_append (free : separator ∉ text) (ends : rest = [] ∨ ∃ tail, rest = separator :: tail) :
    (text ++ rest).takeWhile (· != separator) = text ∧
      (text ++ rest).dropWhile (· != separator) = rest := by
  apply span_exact
  · intro c member
    rw [bne_iff_ne]
    rintro rfl
    exact free member
  · rintro c first
    rcases ends with rfl | ⟨tail, rfl⟩
    · contradiction
    · obtain rfl := Option.some.inj first
      exact bne_self_eq_false _

/-- Texts that end so are the same as soon as they are with what follows. -/
theorem append_inj_of_ends {inside : Char → Bool} {other after : List Char}
    (all : ∀ c ∈ text, inside c = true) (ends : ∀ c, rest.head? = some c → inside c = false)
    (others : ∀ c ∈ other, inside c = true) (stops : ∀ c, after.head? = some c → inside c = false)
    (same : text ++ rest = other ++ after) : text = other ∧ rest = after := by
  obtain ⟨first, second⟩ := span_exact all ends
  rw [same] at first second
  obtain ⟨third, fourth⟩ := span_exact others stops
  exact ⟨first.symm.trans third, second.symm.trans fourth⟩

theorem not_mem_first : separator ∉ (first separator text).1 := by
  induction text with
  | nil => exact List.not_mem_nil
  | cons c rest ih =>
    rw [first]
    split
    · exact List.not_mem_nil
    · rename_i other
      rw [List.mem_cons, not_or]
      exact ⟨Ne.symm other, ih⟩

theorem mem_of_mem_first (member : c ∈ (first separator text).1) : c ∈ text := by
  induction text with
  | nil => exact member
  | cons d rest ih =>
    rw [first] at member
    split at member
    · contradiction
    · rcases List.mem_cons.mp member with rfl | later
      · exact List.mem_cons_self
      · exact List.mem_cons_of_mem _ (ih later)

section
variable {separates : Char → Bool}

theorem split_eq_splitOnP : split separates text = text.splitOnP separates := by
  induction text with
  | nil => rfl
  | cons c rest ih =>
    rw [split, List.splitOnP_cons_eq_if_modifyHead, ih]
    split
    · rfl
    · cases parts : rest.splitOnP separates with
      | nil => exact absurd parts (List.splitOnP_ne_nil separates rest)
      | cons head tail => rfl

/-- A part holds characters of the text that do not separate. -/
theorem mem_of_mem_split (listed : part ∈ split separates text) (member : c ∈ part) :
    c ∈ text ∧ separates c = false := by
  rw [split_eq_splitOnP] at listed
  induction text generalizing part with
  | nil =>
    obtain rfl := List.mem_singleton.mp listed
    contradiction
  | cons d rest ih =>
    have later {part : List Char} (listed : part ∈ rest.splitOnP separates) (member : c ∈ part) :
        c ∈ d :: rest ∧ separates c = false :=
      ⟨List.mem_cons_of_mem _ (ih listed member).1, (ih listed member).2⟩
    rw [List.splitOnP_cons_eq_if_modifyHead] at listed
    split at listed
    · rcases List.mem_cons.mp listed with rfl | others
      · contradiction
      · exact later others member
    · rename_i apart
      cases parts : rest.splitOnP separates with
      | nil => exact absurd parts (List.splitOnP_ne_nil separates rest)
      | cons head tail =>
        rw [parts, List.modifyHead_cons] at listed
        rcases List.mem_cons.mp listed with rfl | others
        · rcases List.mem_cons.mp member with rfl | own
          · exact ⟨List.mem_cons_self, Bool.eq_false_iff.mpr apart⟩
          · exact later (parts ▸ List.mem_cons_self) own
        · exact later (parts ▸ List.mem_cons_of_mem _ others) member

/-- Parts without separators that were joined by one are found again. -/
theorem split_intercalate (separator : Char) {parts : List (List Char)} (nonempty : parts ≠ [])
    (free : ∀ part ∈ parts, separator ∉ part) :
    split (· == separator) (List.intercalate [separator] parts) = parts := by
  rw [split_eq_splitOnP, ← List.splitOn_eq_splitOnP]
  exact List.splitOn_intercalate separator free nonempty

end

theorem forall_mem_intercalate {p : Char → Prop} {parts : List (List Char)} (own : p separator)
    (each : ∀ part ∈ parts, ∀ c ∈ part, p c) : ∀ c ∈ List.intercalate [separator] parts, p c := by
  induction parts with
  | nil => exact List.forall_mem_nil p
  | cons part rest ih =>
    simp only [List.forall_mem_cons] at each
    cases rest with
    | nil => exact List.intercalate_singleton.symm ▸ each.1
    | cons next others =>
      rw [List.intercalate_cons_cons]
      simp only [List.forall_mem_append, List.forall_mem_singleton]
      exact ⟨⟨each.1, own⟩, ih each.2⟩

/-! ### Double colons -/

theorem doubleColon_cons_of_ne (other : c ≠ ':') : doubleColon (c :: rest) =
    (doubleColon rest).map fun (before, after) => (c :: before, after) := by
  rw [doubleColon]
  rintro _ rfl
  contradiction

theorem doubleColon_append (free : ':' ∉ part) : doubleColon (part ++ rest) =
    (doubleColon rest).map fun (before, after) => (part ++ before, after) := by
  induction part with
  | nil => simp
  | cons c part ih =>
    simp only [List.mem_cons, not_or] at free
    rw [List.cons_append, doubleColon_cons_of_ne (Ne.symm free.1), ih free.2, Option.map_map]
    rfl

/-- Groups are short of a double colon as long as none of them is empty. -/
theorem doubleColon_intercalate {parts : List (List Char)}
    (whole : ∀ part ∈ parts, part ≠ [] ∧ ':' ∉ part) (rest : List Char) :
    doubleColon (List.intercalate [':'] parts ++ rest) = (doubleColon rest).map fun
      (before, after) => (List.intercalate [':'] parts ++ before, after) := by
  induction parts with
  | nil => simp
  | cons part parts ih =>
    simp only [List.forall_mem_cons] at whole
    cases parts with
    | nil =>
      rw [List.intercalate_singleton]
      exact doubleColon_append whole.1.2
    | cons next others =>
      have later := ih whole.2
      obtain ⟨d, own, rfl⟩ := List.exists_cons_of_ne_nil (whole.2 next List.mem_cons_self).1
      have other : d ≠ ':' := by
        rintro rfl
        exact (whole.2 _ List.mem_cons_self).2 List.mem_cons_self
      have starts : ∃ tail, List.intercalate [':'] ((d :: own) :: others) ++ rest = d :: tail := by
        cases others <;> exact ⟨_, rfl⟩
      obtain ⟨tail, starts⟩ := starts
      have skip : doubleColon (':' :: d :: tail) = (doubleColon (d :: tail)).map fun
          (before, after) => (':' :: before, after) := by
        rw [doubleColon]
        rintro _ _ same
        exact other (List.cons.inj same).1
      rw [List.intercalate_cons_cons, List.append_assoc, List.append_assoc, List.singleton_append,
        doubleColon_append whole.1.2, starts, skip, ← starts, later]
      cases doubleColon rest with
      | none => rfl
      | some found => simp

end ChatGateway.Cut
