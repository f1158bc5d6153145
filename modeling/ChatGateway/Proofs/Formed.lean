import ChatGateway.Proofs.Canonical
import ChatGateway.Proofs.RoundTrip

/-! What is read is well formed. Any admitted value stands for an entity that the layout holds to be
one, unless it has a kind of a later version; so what was read can be written and read again. -/
namespace ChatGateway

theorem Leaf.holds_of_fits {leaf : Leaf} {v : Value} (fits : leaf.schema.Fits v) :
    leaf.Holds v := by
  cases leaf with
  | free =>
    simp only [schema, Schema.free, Schema.Fits] at fits
    obtain ⟨s, rfl, _⟩ := fits
    exact ⟨s, rfl⟩
  | snowflake | uri =>
    simp only [schema, Schema.snowflake, Schema.Fits, TextForm.Accepts] at fits
    exact fits
  | status =>
    simp only [schema, Schema.status, Schema.Fits, TextForm.Accepts, List.mem_map] at fits
    obtain ⟨_, rfl, _, status, _, rfl⟩ := fits
    exact ⟨status, rfl⟩
  | boolean | count | pair =>
    simp only [schema, Schema.Fits] at fits
    exact fits

theorem Discriminator.holds_ofWritten {v : Value} (fits : Schema.discriminator.Fits v) :
    ∃ n ≤ 9999, ofWritten v = .ofNat n := by
  simp only [Schema.discriminator, Schema.Fits, TextForm.Accepts] at fits
  obtain ⟨s, rfl, digits⟩ := fits
  exact ⟨_, (fourDigits_decimal digits).2, rfl⟩

theorem FlagTable.holds_natural {table : FlagTable} {v : Value} (count : v.IsCount) :
    ∃ n ≤ Number.safeLimit, Value.flags ⟨table, v.natural⟩ = .flags ⟨table, n⟩ := by
  obtain ⟨n, safe, rfl⟩ := count
  exact ⟨n, safe, by rw [Value.natural_ofNat safe]⟩

theorem ActivityButton.holds_ofItem {item : Value}
    (fits : itemSchema.Fits item) : Holds (ofItem item) := by
  obtain ⟨button, shows⟩ := fits_iff_shows.mp fits
  rw [← toValue_of_shows shows]
  exact ⟨_, rfl, List.Subset.refl _, button.label, button.url, rfl, rfl⟩

namespace Atom

theorem holds_leaves {leaf : Leaf} {v : Value} (fits : (Schema.list leaf.schema).Fits v) :
    ∃ items, v = .list items ∧ ∀ item ∈ items, leaf.Holds item := by
  obtain ⟨items, rfl, each⟩ := Schema.fits_list.mp fits
  exact ⟨items, rfl, fun item member => Leaf.holds_of_fits (each item member)⟩

theorem holds_entity {a : Atom} {v : Value} (admitted : Schema.Admits a.occurrence a.schema v)
    (coded : a.Coded v) : a.Holds (a.entity v) := by
  cases a with
  | required leaf => exact Leaf.holds_of_fits admitted
  | optional leaf =>
    simp only [entity, Value.orElse]
    split
    · exact .inl rfl
    · rename_i there
      exact .inr (Leaf.holds_of_fits (admitted.resolve_left there))
  | switch =>
    rcases admitted with rfl | fits
    · exact ⟨false, rfl⟩
    · obtain ⟨b, rfl⟩ := Schema.fits_boolean.mp fits
      exact ⟨b, rfl⟩
  | discriminator => exact Discriminator.holds_ofWritten admitted
  | optionalDiscriminator =>
    simp only [entity]
    split
    · exact .inl rfl
    · rename_i there
      exact .inr (Discriminator.holds_ofWritten (admitted.resolve_left there))
  | flags table => exact FlagTable.holds_natural (Schema.fits_count.mp admitted)
  | optionalFlags table =>
    simp only [entity]
    split
    · exact .inl rfl
    · rename_i there
      exact .inr (FlagTable.holds_natural (Schema.fits_count.mp (admitted.resolve_left there)))
  | kind kinds =>
    simp only [Coded] at coded
    simp only [entity, coded, if_true]
    exact Enumeration.exists_of_isKnown coded
  | optionalKind kinds =>
    simp only [entity]
    split
    · exact ⟨kinds.first, by simp [Enumeration.known], rfl⟩
    · rename_i there
      have known : kinds.isKnown v = true := by
        rcases coded with rfl | known
        · exact absurd rfl there
        · exact known
      rw [if_pos known]
      exact Enumeration.exists_of_isKnown known
  | buttons =>
    refine ⟨_, rfl, ?_⟩
    rw [List.forall_mem_map]
    intro item member
    rcases admitted with vacant | fits
    · cases v <;> contradiction
    · obtain ⟨items, rfl, each⟩ := Schema.fits_list.mp fits
      exact ActivityButton.holds_ofItem (each item member)
  | leaves leaf => exact holds_leaves admitted
  | optionalLeaves leaf =>
    rcases admitted with rfl | fits
    · exact ⟨[], rfl, by simp⟩
    · obtain ⟨items, rfl, each⟩ := holds_leaves fits
      exact ⟨items, rfl, each⟩

end Atom

namespace Layout

theorem holds_entityFields {fields : List (String × String × Layout)} {v : Value}
    (distinct : soundNames fields = true)
    (each : ∀ field ∈ fields, field.2.2.Holds (field.2.2.entity (v.seen field.1))) :
    ∃ entries, Value.record (entityFields fields v) = .record entries ∧
      entries.map Prod.fst ⊆ fields.map (·.2.1) ∧
      FieldsHold fields (.record (entityFields fields v)) := by
  refine ⟨_, rfl, ?_, ?_⟩
  · rw [entityFields_eq_map, List.map_map]
    exact List.Subset.refl _
  · apply fieldsHold_iff.mpr
    intro field member
    rw [get_entityFields distinct member]
    exact each field member

/-- What an admitted value stands for is well formed, if its kinds are known. -/
theorem holds_entity {layout : Layout} (sound : layout.coherent = true) {v : Value}
    (admitted : layout.Admits v) (coded : layout.Coded v) : layout.Holds (layout.entity v) := by
  induction layout generalizing v with
  | atom a =>
    simp only [Holds]
    exact Atom.holds_entity admitted (by simpa only [Coded] using coded)
  | record fields ofFields =>
    simp only [Coded, fieldsCoded_iff] at coded
    obtain ⟨distinct, sound⟩ := coherent_record.mp sound
    obtain ⟨_, each⟩ := admits_record.mp admitted
    simp only [Holds]
    apply holds_entityFields distinct
    intro field member
    exact ofFields field member (sound field member) (each field member) (coded field member)
  | part fields ofFields =>
    simp only [Coded, fieldsCoded_iff] at coded
    obtain ⟨distinct, sound⟩ := coherent_record.mp (coherent_part.mp sound)
    simp only [Holds, entity]
    split
    · exact .inl rfl
    · rename_i there
      obtain ⟨_, each⟩ := admits_record.mp ((admits_part.mp admitted).resolve_left there)
      have coded := coded.resolve_left there
      right
      apply holds_entityFields distinct
      intro field member
      exact ofFields field member (sound field member) (each field member) (coded field member)
  | ofUser inner ofInner =>
    simp only [Holds]
    simp only [Coded] at coded
    exact ofInner (coherent_ofUser.mp sound).2 (admits_ofUser.mp admitted) coded
  | list item ofItem =>
    obtain ⟨items, rfl, each⟩ := admits_list.mp admitted
    simp only [Coded] at coded
    simp only [Holds]
    refine ⟨_, rfl, ?_⟩
    rw [List.forall_mem_map]
    intro x member
    exact ofItem (coherent_list.mp sound).2 (admits_of_fits (each x member)) (coded x member)
  | optionalList item ofItem =>
    obtain ⟨_, each⟩ := listed_of_admits (admits_optionalList.mp admitted)
    simp only [Coded] at coded
    simp only [Holds]
    refine ⟨_, rfl, ?_⟩
    rw [List.forall_mem_map]
    intro x member
    have sound := coherent_list.mp (coherent_optionalList.mp sound)
    exact ofItem sound.2 (admits_of_fits (each x member)) (coded x member)
  | keyed collection key item ofItem =>
    obtain ⟨keyed, sound⟩ := coherent_keyed.mp sound
    obtain ⟨_, each⟩ := listed_of_admits (admits_keyed.mp admitted)
    simp only [Coded] at coded
    simp only [Holds]
    refine ⟨_, rfl, ?_, ?_⟩
    · have names : ((lastOfEach (Value.keyText key) v.listed).map
          (Prod.map Value.text fun x => item.entity x)).map Prod.fst =
          (v.listed.map (Value.keyText key)).eraseDups.map .text := by
        rw [← keys_lastOfEach, List.map_map, List.map_map]
        rfl
      rw [names]
      exact (nodup_eraseDups _).map fun _ _ => Value.text.inj
    · rw [List.forall_mem_map]
      intro entry member
      obtain ⟨before, after, split, named, _⟩ := mem_lastOfEach member
      have held : entry.2 ∈ v.listed := by simp [split]
      obtain ⟨s, wire, _, own⟩ := follow_of_hasKey sound keyed (each _ held)
      refine ⟨ofItem sound (admits_of_fits (each _ held)) (coded entry member), ?_⟩
      rw [Prod.map_snd, own, Prod.map_fst, ← named, keyText_of_reach wire]

end Layout

/-- A well-formed entity is written, and what is written is decoded to an equal one, whatever the
context. -/
theorem RecordType.reread_of_holds (r : RecordType) (other : r ≠ ready) {entity : Value}
    (held : r.layout.Holds entity) : ∃ wire, r.form.write entity = .ok wire ∧
      ∀ context, ∃ decoded, (r.decode wire (.within context)).outcome = .ok decoded ∧
        decoded.Same entity := by
  obtain ⟨wire, written, admitted, payload, same⟩ := Layout.writes_of_holds r.coherent_layout held
  have fits := Layout.fits_of_admits r.required_layout admitted
  rw [schema_layout] at fits
  refine ⟨wire, r.form_layout ▸ written, fun context => ⟨_, ?_, same⟩⟩
  exact outcome_decode_of_fits (configured_of_ne other) (Schema.breaksDown_of_isPayload payload)
    fits

end ChatGateway
