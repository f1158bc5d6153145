import ChatGateway.Proofs.Writing
import Mathlib.Data.List.Forall2
import Mathlib.Tactic.Choose

/-! Buttons of lists of any items. `Shows` says which button an item stands for; a list is read item
by item in this sense, or refused at the first item that stands for none, and what is written reads
as the same buttons. -/
namespace ChatGateway.ActivityButton

/-- The button that a list item stands for: a label alone, or a record with a label and, unless it
is missing, a link. -/
inductive Shows : Value → ActivityButton → Prop
  | label (label : String) : Shows (.text label) ⟨label, ""⟩
  | linked {v : Value} {label url : String} : v.isRecord = true → v.get "label" = .text label →
      v.get "url" = .text url → Shows v ⟨label, url⟩
  | unlinked {v : Value} {label : String} : v.isRecord = true → v.get "label" = .text label →
      (v.get "url").isVacant = true → Shows v ⟨label, ""⟩

section
variable {field : String} {position : Nat} {element v : Value} {elements before : List Value}
  {button : ActivityButton} {buttons : List ActivityButton}

theorem ofElement?_of_isRecord (record : v.isRecord = true) :
    ofElement? v = match v.get "label", v.get "url" with
      | .text label, .text url => some ⟨label, url⟩
      | .text label, .absent => some ⟨label, ""⟩
      | .text label, .null => some ⟨label, ""⟩
      | _, _ => none := by
  cases v <;> first | contradiction | rfl

theorem ofElement?_eq_some_iff : ofElement? v = some button ↔ Shows v button := by
  constructor
  · intro read
    cases record : v.isRecord with
    | false =>
      cases v with
      | text label =>
        obtain rfl := Option.some.inj read
        exact .label label
      | _ => contradiction
    | true =>
      rw [ofElement?_of_isRecord record] at read
      split at read
      · rename_i labelled linked
        obtain rfl := Option.some.inj read
        exact .linked record labelled linked
      · rename_i labelled missing
        obtain rfl := Option.some.inj read
        exact .unlinked record labelled (by rw [missing]; rfl)
      · rename_i labelled missing
        obtain rfl := Option.some.inj read
        exact .unlinked record labelled (by rw [missing]; rfl)
      · contradiction
  · intro shows
    cases shows with
    | label label => rfl
    | linked record labelled linked => rw [ofElement?_of_isRecord record, labelled, linked]
    | unlinked record labelled missing =>
      rw [ofElement?_of_isRecord record, labelled]
      generalize v.get "url" = url at missing
      cases url <;> first | contradiction | rfl

theorem ofElement?_eq_none_iff : ofElement? v = none ↔ ¬ ∃ button, Shows v button := by
  simp only [Option.eq_none_iff_forall_ne_some, ne_eq, ofElement?_eq_some_iff, not_exists]

/-- The schema of the items of a checked list. -/
def itemSchema : Schema := .either .free .activityButton

theorem copied_label (label : String) : itemSchema.copied (.text label) = .text label :=
  Schema.copied_text _ label

theorem isRecord_copied : (itemSchema.copied v).isRecord = v.isRecord := Schema.isRecord_copied

/-- A copied item has the fields that are seen of the item. -/
theorem get_copied (record : v.isRecord = true) :
    (itemSchema.copied v).get "label" = v.seen "label" ∧
      (itemSchema.copied v).get "url" = v.seen "url" := by
  have untext : ¬ (Schema.free.problems false [] v).isEmpty = true := by
    simp only [List.isEmpty_iff, Schema.problems_eq_nil_iff, Schema.free, Schema.Fits]
    rintro ⟨s, rfl, _⟩
    contradiction
  rw [itemSchema, Schema.copied, if_neg untext]
  exact ⟨Schema.get_copied (by decide) List.mem_cons_self,
    Schema.get_copied (by decide) (List.mem_cons_of_mem _ List.mem_cons_self)⟩

/-- The schema of list items takes what has a copy that stands for a button. -/
theorem fits_iff_shows : itemSchema.Fits v ↔ ∃ button, Shows (itemSchema.copied v) button := by
  have fits_iff : itemSchema.Fits v ↔ (∃ label, v = .text label) ∨ v.isRecord = true ∧
      (∃ label, v.seen "label" = .text label) ∧
      ((v.seen "url").isVacant = true ∨ ∃ url, v.seen "url" = .text url) := by
    simp only [itemSchema, Schema.Fits, Schema.free, Schema.activityButton, TextForm.Accepts,
      and_true, Schema.FieldsFit]
  rw [fits_iff]
  constructor
  · rintro (⟨label, rfl⟩ | ⟨record, ⟨label, labelled⟩, url⟩)
    · rw [copied_label]
      exact ⟨_, .label label⟩
    · obtain ⟨sameLabel, sameUrl⟩ := get_copied record
      rw [← sameLabel] at labelled
      rw [← sameUrl] at url
      have copy := isRecord_copied.trans record
      rcases url with missing | ⟨url, linked⟩
      · exact ⟨_, .unlinked copy labelled missing⟩
      · exact ⟨_, .linked copy labelled linked⟩
  · rintro ⟨button, shows⟩
    have parts (record : (itemSchema.copied v).isRecord = true) := get_copied <|
      isRecord_copied.symm.trans record
    generalize copied : itemSchema.copied v = copy at shows parts
    cases shows with
    | label label =>
      exact .inl ⟨label, (Schema.copied_eq_iff rfl fun _ => Value.noConfusion).mp copied⟩
    | linked record labelled linked =>
      obtain ⟨sameLabel, sameUrl⟩ := parts record
      rw [← copied, isRecord_copied] at record
      exact .inr ⟨record, ⟨_, sameLabel ▸ labelled⟩, .inr ⟨_, sameUrl ▸ linked⟩⟩
    | unlinked record labelled missing =>
      obtain ⟨sameLabel, sameUrl⟩ := parts record
      rw [← copied, isRecord_copied] at record
      exact .inr ⟨record, ⟨_, sameLabel ▸ labelled⟩, .inl (sameUrl ▸ missing)⟩

theorem exists_buttons (shown : ∀ element ∈ elements, ∃ button, Shows element button) :
    ∃ buttons, List.Forall₂ Shows elements buttons := by
  choose! button shows using shown
  exact ⟨elements.map button, List.forall₂_map_right_iff.mpr (List.forall₂_same.mpr shows)⟩

/-- Reading succeeds with the buttons that the items stand for, each in the place of its item. -/
theorem decodeFrom_eq_ok_iff :
    decodeFrom field position elements = .ok buttons ↔ List.Forall₂ Shows elements buttons := by
  induction elements generalizing position buttons with
  | nil => cases buttons <;> simp [decodeFrom]
  | cons element rest ih =>
    rw [decodeFrom]
    cases shown : ofElement? element with
    | none =>
      have shapeless := ofElement?_eq_none_iff.mp shown
      simp only [reduceCtorEq, false_iff]
      intro related
      cases related with
      | cons shows _ => exact shapeless ⟨_, shows⟩
    | some first =>
      have own {other : ActivityButton} : Shows element other ↔ first = other := by
        rw [← ofElement?_eq_some_iff, shown, Option.some.injEq]
      cases buttons with
      | nil =>
        cases decodeFrom field (position + 1) rest <;> simp [Bind.bind, Except.bind, Pure.pure,
          Except.pure]
      | cons head tail =>
        rw [List.forall₂_cons, own, ← @ih (position + 1) tail]
        cases decodeFrom field (position + 1) rest <;> simp [Bind.bind, Except.bind, Pure.pure,
          Except.pure]

/-- How a list item is refused that stands for no button. -/
def refusal (field : String) (position : Nat) (element : Value) : DecodeError :=
  let place := field ++ "[" ++ toString position ++ "]"
  .structural place "button.shape" (place ++ " must be a label or object button") element

/-- The first item that stands for no button ends the reading. -/
theorem decodeFrom_refused (shown : ∀ earlier ∈ before, ∃ button, Shows earlier button)
    (shapeless : ¬ ∃ button, Shows element button) (after : List Value) :
    decodeFrom field position (before ++ element :: after) =
      .error (refusal field (position + before.length) element) := by
  induction before generalizing position with
  | nil =>
    rw [List.nil_append, decodeFrom, ofElement?_eq_none_iff.mpr shapeless]
    rfl
  | cons head rest ih =>
    obtain ⟨button, shows⟩ := shown head List.mem_cons_self
    have others := @ih (position + 1) fun earlier member =>
      shown earlier (List.mem_cons_of_mem _ member)
    have place : position + 1 + rest.length = position + (head :: rest).length := by
      rw [List.length_cons]
      omega
    rw [List.cons_append, decodeFrom, ofElement?_eq_some_iff.mpr shows, ← place]
    simp only [others, Bind.bind, Except.bind]

/-- A list without a shapeless item, or up to the first one. -/
theorem shown_or_shapeless (elements : List Value) :
    (∀ element ∈ elements, ∃ button, Shows element button) ∨
      ∃ before element after, elements = before ++ element :: after ∧
        (∀ earlier ∈ before, ∃ button, Shows earlier button) ∧ ¬ ∃ button, Shows element button := by
  have shows_iff (v : Value) : (ofElement? v).isNone = false ↔ ∃ button, Shows v button := by
    simp only [Option.isNone_eq_false_iff, Option.isSome_iff_exists, ofElement?_eq_some_iff]
  cases found : elements.find? fun v => (ofElement? v).isNone with
  | none =>
    refine .inl fun element member => (shows_iff element).mp ?_
    exact Bool.eq_false_iff.mpr (List.find?_eq_none.mp found element member)
  | some element =>
    obtain ⟨shapeless, before, after, whole, earlier⟩ := List.find?_eq_some_iff_append.mp found
    refine .inr ⟨before, element, after, whole, fun v member => (shows_iff v).mp ?_, ?_⟩
    · simpa using earlier v member
    · rw [← ofElement?_eq_none_iff]
      simpa using shapeless

/-! ### Written buttons -/

theorem shows_toValue (button : ActivityButton) : Shows button.toValue button :=
  .linked rfl rfl rfl

theorem decode_toValue (field : String) (buttons : List ActivityButton) :
    decode field (.list (buttons.map toValue)) = .ok buttons := by
  refine decodeFrom_eq_ok_iff.mpr ?_
  rw [List.forall₂_map_left_iff, List.forall₂_same]
  intro button _
  exact shows_toValue button

theorem write_toValue (buttons : List ActivityButton) :
    written.write (.list (buttons.map toValue)) = .ok (.list (buttons.map toValue)) := by
  rw [write_texts, List.map_map]
  · rfl
  · intro item member
    obtain ⟨button, _, rfl⟩ := List.mem_map.mp member
    exact ⟨button.label, button.url, rfl, rfl⟩

/-- What is written for the buttons that a value stands for. -/
def normalized (field : String) (v : Value) : Except Failure Value := do
  (form field).write (← ((form field).read v none).outcome)

theorem normalized_of_decode (read : decode field v = .ok buttons) :
    normalized field v = .ok (.list (buttons.map toValue)) := by
  rw [normalized, form, Traced.outcome_ofExcept, read]
  exact write_toValue buttons

end

/-- A list reads as the buttons that its items stand for, item by item, or is refused because of the
first item that stands for none, with this item as the one problem. All buttons are read back from
what is written for them, and what was read and written once is written the same again. -/
theorem decode_elements (field : String) :
    (∀ elements : List Value,
      (∃ buttons, decode field (.list elements) = .ok buttons ∧
        List.Forall₂ Shows elements buttons) ∨
      ∃ before element after error problem, elements = before ++ element :: after ∧
        (∀ earlier ∈ before, ∃ button, Shows earlier button) ∧
        (¬ ∃ button, Shows element button) ∧
        decode field (.list elements) = .error error ∧
        error.code = .structuralDecodeError ∧ error.details = [problem] ∧
        problem.field = field ++ "[" ++ toString before.length ++ "]" ∧
        problem.value = element) ∧
    (∀ buttons : List ActivityButton, ∃ wire,
      written.write (.list (buttons.map toValue)) = .ok wire ∧ decode field wire = .ok buttons) ∧
    ∀ v : Value, (∃ buttons, decode field v = .ok buttons) →
      ∃ wire, normalized field v = .ok wire ∧ normalized field wire = .ok wire := by
  refine ⟨fun elements => ?_, fun buttons => ?_, fun v => ?_⟩
  · rcases shown_or_shapeless elements with shown | ⟨before, element, after, rfl, shown, shapeless⟩
    · obtain ⟨buttons, related⟩ := exists_buttons shown
      exact .inl ⟨buttons, decodeFrom_eq_ok_iff.mpr related, related⟩
    · have refused := @decodeFrom_refused field 0 element before shown shapeless after
      rw [Nat.zero_add] at refused
      exact .inr ⟨before, element, after, _, _, rfl, shown, shapeless, refused, rfl, rfl, rfl, rfl⟩
  · exact ⟨_, write_toValue buttons, decode_toValue field buttons⟩
  · rintro ⟨buttons, read⟩
    exact ⟨_, normalized_of_decode read, normalized_of_decode (decode_toValue field buttons)⟩

/-- A label alone, a record without a link and one with a link and a field that no button has. -/
theorem decode_elements_mixed :
    let v : Value := .list [.text "Open", .record [("label", .text "Go"), ("url", .null)],
      .record [("style", .ofNat 2), ("label", .text ""), ("url", .text "b")]]
    decode "buttons" v = .ok [⟨"Open", ""⟩, ⟨"Go", ""⟩, ⟨"", "b"⟩] ∧
      ∃ wire, normalized "buttons" v = .ok wire ∧ normalized "buttons" wire = .ok wire := by
  intro v
  have read : decode "buttons" v = .ok [⟨"Open", ""⟩, ⟨"Go", ""⟩, ⟨"", "b"⟩] := rfl
  exact ⟨read, (decode_elements "buttons").2.2 v ⟨_, read⟩⟩

example : decode "b" (.list [.text "a", .record [("label", .ofNat 3)], .null]) =
    .error (refusal "b" 1 (.record [("label", .ofNat 3)])) := rfl

end ChatGateway.ActivityButton
