import ChatGateway.Proofs.Keyed
import Mathlib.Data.List.Forall2
import Mathlib.Logic.Function.Basic

/-! Keyed collections read from lists of any items, whose calls may look at the position and may
fail, and written back. -/
namespace ChatGateway

/-- A traversal whose calls all succeed succeeds, with results that are related to the items. -/
theorem exists_mapM_eq_ok {ε α β : Type} {f : α → Except ε β} {related : α → β → Prop}
    {items : List α} (each : ∀ item ∈ items, ∃ result, f item = .ok result ∧ related item result) :
    ∃ results, items.mapM f = .ok results ∧ List.Forall₂ related items results := by
  induction items with
  | nil => exact ⟨[], rfl, .nil⟩
  | cons item rest ih =>
    rw [List.forall_mem_cons] at each
    obtain ⟨⟨head, first, own⟩, each⟩ := each
    obtain ⟨tail, others, all⟩ := ih each
    refine ⟨head :: tail, ?_, .cons own all⟩
    rw [List.mapM_cons, first, others]
    rfl

namespace Keyed

/-- The calls made for items in order, each with the position of its item. -/
def calls {ι α : Type} (decodeItem : ι → Nat → Traced α) (items : List ι) : List (Traced α) :=
  items.zipIdx.map (Function.uncurry decodeItem)

section
variable {ι κ α : Type} [BEq κ] {c : Keyed κ α} {keyOf : α → κ} {duplicate : κ → Entry}

/-- Under each key the collection has the last of the values with it. The keys stand in the order in
which they first appear. -/
structure HoldsLast (c : Keyed κ α) (keyOf : α → κ) (values : List α) : Prop where
  keys : c.keys = (values.map keyOf).eraseDups
  get : ∀ key value, c.get? key = some value ↔
    ∃ before after, values = before ++ value :: after ∧ keyOf value = key ∧
      ∀ later ∈ after, keyOf later ≠ key

theorem decodeInto_append (decodeItem : ι → Traced α) (c : Keyed κ α) (before after : List ι) :
    decodeInto decodeItem keyOf duplicate c (before ++ after) =
      (decodeInto decodeItem keyOf duplicate c before >>= fun c =>
        decodeInto decodeItem keyOf duplicate c after) := by
  induction before generalizing c with
  | nil =>
    exact (pure_bind c fun c => decodeInto decodeItem keyOf duplicate c after).symm
  | cons item rest ih =>
    simp only [List.cons_append, decodeInto, ih, bind_assoc]
    congr 1
    funext value
    split <;> simp only [bind_assoc]

/-- A call that fails ends the reading. What comes after is not looked at. -/
theorem decodeInto_failing {decodeItem : ι → Traced α} {before : List ι} {item : ι}
    {reached : Keyed κ α} {failure : Failure}
    (read : (decodeInto decodeItem keyOf duplicate c before).outcome = .ok reached)
    (failing : (decodeItem item).outcome = .error failure) (after : List ι) :
    decodeInto decodeItem keyOf duplicate c (before ++ item :: after) =
      ⟨(decodeInto decodeItem keyOf duplicate c before).log ++ (decodeItem item).log,
        .error failure⟩ := by
  simp only [decodeInto_append, decodeInto]
  generalize decodeInto decodeItem keyOf duplicate c before = first at read ⊢
  generalize decodeItem item = call at failing ⊢
  obtain ⟨log, outcome⟩ := first
  obtain ⟨own, result⟩ := call
  cases read
  cases failing
  rfl

/-- A call that succeeds puts its value in, after an entry if the key is taken. -/
theorem decodeInto_call {call : Traced α} {value : α} (read : call.outcome = .ok value) :
    decodeInto id keyOf duplicate c [call] =
      ⟨call.log ++ if c.contains (keyOf value) then [duplicate (keyOf value)] else [],
        .ok (c.insert (keyOf value) value)⟩ := by
  obtain ⟨log, outcome⟩ := call
  obtain rfl : outcome = .ok value := read
  cases taken : c.contains (keyOf value) <;>
    simp [decodeInto, Bind.bind, Traced.andThen, taken, Traced.write, Traced.result]

/-- Items are read as the calls that are made for them. -/
theorem decodeIndexed_some (decodeItem : ι → Nat → Traced α) (items : List ι) :
    decodeIndexed (some items) decodeItem keyOf duplicate =
      decode (calls decodeItem items) id keyOf duplicate :=
  decodeInto_eq_map _ keyOf duplicate empty _

theorem outcome_calls {decodeItem : ι → Nat → Traced α} {values : List α} {items : List ι}
    (each : List.Forall₂ (fun value item => ∀ i, (decodeItem item i).outcome = .ok value)
      values items) :
    (calls decodeItem items).map Traced.outcome = values.map .ok := by
  suffices shifted : ∀ start, ((items.zipIdx start).map (Function.uncurry decodeItem)).map
      Traced.outcome = values.map .ok from shifted 0
  induction each with
  | nil => exact fun _ => rfl
  | cons own _ ih =>
    intro start
    simp only [List.zipIdx_cons, List.map_cons, ih, Function.uncurry_apply_pair, own]

variable [LawfulBEq κ]

theorem contains_iff {key : κ} : c.contains key = true ↔ key ∈ c.keys := by
  simp [contains]

theorem nodup_keys (c : Keyed κ α) : c.keys.Nodup :=
  c.distinct.imp fun differs => beq_eq_false_iff_ne.mp differs

/-- What reading writes: the entries of each call and then, if an earlier value has the same key,
one about it. -/
def logged (keyOf : α → κ) (duplicate : κ → Entry) (calls : List (Traced α)) (values : List α) :
    List Entry :=
  (calls.zip values).zipIdx.flatMap fun ((call, value), i) =>
    call.log ++ if keyOf value ∈ (values.take i).map keyOf then [duplicate (keyOf value)] else []

theorem logged_append {calls : List (Traced α)} {values : List α}
    (same : calls.length = values.length) (call : Traced α) (value : α) :
    logged keyOf duplicate (calls ++ [call]) (values ++ [value]) =
      logged keyOf duplicate calls values ++ (call.log ++
        if keyOf value ∈ values.map keyOf then [duplicate (keyOf value)] else []) := by
  have before : ∀ entry ∈ (calls.zip values).zipIdx,
      (values ++ [value]).take entry.2 = values.take entry.2 := by
    rintro ⟨entry, i⟩ member
    have inside := List.snd_lt_of_mem_zipIdx member
    rw [List.length_zip, same, Nat.min_self] at inside
    exact List.take_append_of_le_length (Nat.le_of_lt (by simpa using inside))
  rw [logged, List.zip_append same, List.zipIdx_append, List.flatMap_append]
  congr 1
  · refine List.flatMap_congr fun ⟨⟨call, value⟩, i⟩ member => ?_
    have kept := before _ member
    dsimp only at kept ⊢
    rw [kept]
  · have whole : (values ++ [value]).take values.length = values := List.take_left
    have last : (calls.zip values).length = values.length := by simp [same]
    simp only [last, List.zip_cons_cons, List.zip_nil_left, List.zipIdx_cons, List.zipIdx_nil,
      List.flatMap_cons, List.flatMap_nil, Nat.zero_add, whole, List.append_nil]

/-- Without a key that comes twice there are only the entries of the calls. -/
theorem logged_of_nodup {calls : List (Traced α)} {values : List α}
    (same : calls.length = values.length) (distinct : (values.map keyOf).Nodup) :
    logged keyOf duplicate calls values = calls.flatMap Traced.log := by
  induction values using List.reverseRecOn generalizing calls with
  | nil =>
    obtain rfl := List.eq_nil_of_length_eq_zero same
    rfl
  | append_singleton values value ih =>
    obtain rfl | ⟨calls, call, rfl⟩ := calls.eq_nil_or_concat'
    · simp at same
    · rw [List.map_append, List.nodup_append] at distinct
      have fresh : keyOf value ∉ values.map keyOf := fun old =>
        distinct.2.2 _ old _ (by simp) rfl
      have same : calls.length = values.length := by simpa using same
      rw [logged_append same, ih same distinct.1, if_neg fresh, List.flatMap_append]
      simp

variable (keyOf duplicate)

/-- Reading keeps, for what has been read, the last value of each key and the entries so far. -/
theorem decode_calls {calls : List (Traced α)} {values : List α}
    (read : calls.map Traced.outcome = values.map .ok) :
    ∃ c, decode calls id keyOf duplicate = ⟨logged keyOf duplicate calls values, .ok c⟩ ∧
      c.entries = lastOfEach keyOf values := by
  -- The induction takes calls off the end, so that the last one meets what those before it left.
  induction calls using List.reverseRecOn generalizing values with
  | nil =>
    obtain rfl : values = [] := by simpa using read
    exact ⟨empty, rfl, rfl⟩
  | append_singleton calls call ih =>
    rw [List.map_append, eq_comm, List.map_eq_append_iff] at read
    obtain ⟨values, last, rfl, before, own⟩ := read
    obtain ⟨value, rfl, read⟩ := List.map_eq_singleton_iff.mp own
    obtain ⟨c, reached, entries⟩ := ih before.symm
    have same : calls.length = values.length := by simpa using (congrArg List.length before).symm
    have keys : c.keys = (values.map keyOf).eraseDups := by
      rw [Keyed.keys, entries, keys_lastOfEach]
    refine ⟨c.insert (keyOf value) value, ?_, ?_⟩
    · rw [decode] at reached ⊢
      have taken : c.contains (keyOf value) = true ↔ keyOf value ∈ values.map keyOf := by
        rw [contains_iff, keys, List.mem_eraseDups]
      rw [decodeInto_append, reached, logged_append same]
      change Traced.andThen _ _ = _
      simp only [Traced.andThen, decodeInto_call read.symm, taken]
    · rw [← foldl_set] at entries ⊢
      rw [List.foldl_append, ← entries]
      rfl

variable {keyOf duplicate}

/-- What is under a key is the last value that has it. -/
theorem holdsLast_of_entries {values : List α} (entries : c.entries = lastOfEach keyOf values) :
    c.HoldsLast keyOf values where
  keys := by rw [keys, entries, keys_lastOfEach]
  get key value := by
    rw [get?, entries, ← foldl_set, lookup_foldl_set, find?_reverse_eq_some_iff]

/-- A collection is written with one item for each key, in the order of the keys. -/
theorem encode_forall₂ {ε ω : Type} (c : Keyed κ α) {encodeItem : α → Except ε ω}
    (each : ∀ value ∈ c.values, ∃ item, encodeItem value = .ok item) :
    ∃ written, c.encode encodeItem = .ok written ∧ List.Forall₂ (fun key item =>
      ∃ value, c.get? key = some value ∧ encodeItem value = .ok item) c.keys written := by
  obtain ⟨written, whole, related⟩ := exists_mapM_eq_ok fun value member =>
    (each value member).imp fun _ encoded => ⟨encoded, encoded⟩
  refine ⟨written, whole, ?_⟩
  rw [values, List.forall₂_map_left_iff] at related
  rw [keys, List.forall₂_map_left_iff]
  have held : ∀ entry ∈ c.entries, c.get? entry.1 = some entry.2 := fun entry member =>
    Fields.lookup_of_mem (nodup_keys c) member
  exact ((List.forall₂_and_left _ _).mpr ⟨held, related⟩).imp fun entry item found =>
    ⟨entry.2, found⟩

/-- Reading what a collection is written to gives the collection. -/
theorem decode_written {m : Keyed κ α} (own : m.values.map keyOf = m.keys) {written : List ι}
    {decodeItem : ι → Nat → Traced α}
    (inverse : List.Forall₂ (fun value item => ∀ i, (decodeItem item i).outcome = .ok value)
      m.values written) :
    decodeIndexed (some written) decodeItem keyOf duplicate =
      ⟨(calls decodeItem written).flatMap Traced.log, .ok m⟩ := by
  have read := outcome_calls inverse
  have same : (calls decodeItem written).length = m.values.length := by
    simpa using congrArg List.length read
  have distinct : (m.values.map keyOf).Nodup := own ▸ nodup_keys m
  have rebuilt : lastOfEach keyOf m.values = m.entries := by
    rw [values, keys, List.map_map, List.map_inj_left] at own
    rw [lastOfEach_of_nodup distinct, values, List.map_map]
    refine Eq.trans (List.map_congr_left fun entry member => ?_) (List.map_id _)
    exact Prod.ext (own entry member) rfl
  obtain ⟨c, reached, entries⟩ := decode_calls keyOf duplicate read
  obtain rfl : c = m := by
    cases c
    cases m
    cases entries.trans rebuilt
    rfl
  rw [decodeIndexed_some, reached, logged_of_nodup same distinct]

/-- The first call that fails ends the reading. -/
theorem decode_failing {decodeItem : ι → Nat → Traced α} {before : List ι} {item : ι}
    {values : List α} {failure : Failure}
    (read : (calls decodeItem before).map Traced.outcome = values.map .ok)
    (failing : (decodeItem item before.length).outcome = .error failure) (after : List ι) :
    decodeIndexed (some (before ++ item :: after)) decodeItem keyOf duplicate =
      ⟨logged keyOf duplicate (calls decodeItem before) values ++
        (decodeItem item before.length).log, .error failure⟩ := by
  obtain ⟨c, reached, _⟩ := decode_calls keyOf duplicate read
  have split : calls decodeItem (before ++ item :: after) = calls decodeItem before ++
      decodeItem item before.length ::
        (after.zipIdx (before.length + 1)).map (Function.uncurry decodeItem) := by
    rw [calls, List.zipIdx_append, List.zipIdx_cons, Nat.zero_add, List.map_append, List.map_cons,
      calls, Function.uncurry_apply_pair]
  rw [decode] at reached
  rw [decodeIndexed_some, split, decode,
    decodeInto_failing (congrArg Traced.outcome reached) failing, reached]
  rfl

/-- Lists of any items read into a collection. If no call fails, the last value of each key is left,
a key that comes again is logged once each time, and the collection is written with one item for
each key. The first call that fails ends the reading. What a collection whose values carry its keys
is written to reads as that collection. A missing list reads as an empty one. -/
theorem decode_collects (decodeItem : ι → Nat → Traced α) (keyOf : α → κ)
    (duplicate : κ → Entry) :
    (∀ (items : List ι) (values : List α),
      (calls decodeItem items).map Traced.outcome = values.map .ok →
      ∃ c, decodeIndexed (some items) decodeItem keyOf duplicate =
          ⟨logged keyOf duplicate (calls decodeItem items) values, .ok c⟩ ∧
        c.HoldsLast keyOf values ∧
        ∀ {ε ω : Type} (encodeItem : α → Except ε ω),
          (∀ value ∈ c.values, ∃ item, encodeItem value = .ok item) →
          ∃ written, c.encode encodeItem = .ok written ∧ List.Forall₂ (fun key item =>
            ∃ value, c.get? key = some value ∧ encodeItem value = .ok item) c.keys written) ∧
    (∀ (before after : List ι) (item : ι) (values : List α) (failure : Failure),
      (calls decodeItem before).map Traced.outcome = values.map .ok →
      (decodeItem item before.length).outcome = .error failure →
      decodeIndexed (some (before ++ item :: after)) decodeItem keyOf duplicate =
        ⟨logged keyOf duplicate (calls decodeItem before) values ++
          (decodeItem item before.length).log, .error failure⟩) ∧
    (∀ {ε : Type} (m : Keyed κ α) (encodeItem : α → Except ε ι), m.values.map keyOf = m.keys →
      (∀ value ∈ m.values, ∃ item, encodeItem value = .ok item ∧
        ∀ i, (decodeItem item i).outcome = .ok value) →
      ∃ written, m.encode encodeItem = .ok written ∧
        decodeIndexed (some written) decodeItem keyOf duplicate =
          ⟨(calls decodeItem written).flatMap Traced.log, .ok m⟩) ∧
    decodeIndexed none decodeItem keyOf duplicate = ⟨[], .ok empty⟩ := by
  refine ⟨?_, ?_, ?_, rfl⟩
  · intro items values read
    obtain ⟨c, reached, entries⟩ := decode_calls keyOf duplicate read
    exact ⟨c, (decodeIndexed_some decodeItem items).trans reached, holdsLast_of_entries entries,
      fun _ each => encode_forall₂ c each⟩
  · intro before after item values failure read failing
    exact decode_failing read failing after
  · intro ε m encodeItem own inverse
    obtain ⟨written, whole, related⟩ := exists_mapM_eq_ok inverse
    exact ⟨written, whole, decode_written own related⟩

end

/-- A name with its own number or else that of its position. An empty name is refused. -/
def numbered (item : String × Option Nat) (i : Nat) : Traced (String × Nat) :=
  if item.1 = "" then .fail .unsuited else .result (item.1, item.2.getD i)

/-- A name that comes again, a name that is missing, and two names written and read. -/
theorem decode_collects_numbered :
    let duplicate name := Entry.duplicateKey "names" (.text name) none
    let read items := decodeIndexed (some items) numbered Prod.fst duplicate
    let m : Keyed String (String × Nat) := ⟨[("b", ("b", 3)), ("a", ("a", 0))], by decide⟩
    let write (value : String × Nat) : Except Failure (String × Option Nat) :=
      .ok (value.1, some value.2)
    (∃ c, read [("a", none), ("b", none), ("a", some 7)] = ⟨[duplicate "a"], .ok c⟩ ∧
      c.HoldsLast Prod.fst [("a", 0), ("b", 1), ("a", 7)] ∧
      ∃ written, c.encode write = .ok written ∧ List.Forall₂ (fun key item =>
        ∃ value, c.get? key = some value ∧ write value = .ok item) c.keys written) ∧
    read [("a", none), ("", none), ("b", none)] = ⟨[], .error .unsuited⟩ ∧
    m.encode write = .ok [("b", some 3), ("a", some 0)] ∧
      read [("b", some 3), ("a", some 0)] = ⟨[], .ok m⟩ := by
  intro duplicate read m write
  obtain ⟨whole, first, back, _⟩ := decode_collects numbered Prod.fst duplicate
  refine ⟨?_, ?_, ?_⟩
  · obtain ⟨c, reached, holds, encodes⟩ := whole [("a", none), ("b", none), ("a", some 7)]
      [("a", 0), ("b", 1), ("a", 7)] rfl
    exact ⟨c, reached, holds, encodes write fun value _ => ⟨_, rfl⟩⟩
  · exact first [("a", none)] [("b", none)] ("", none) [("a", 0)] .unsuited rfl rfl
  · have inverse : ∀ value ∈ m.values, ∃ item, write value = .ok item ∧
        ∀ i, (numbered item i).outcome = .ok value := by
      intro value member
      refine ⟨_, rfl, fun i => ?_⟩
      have listed : value = ("b", 3) ∨ value = ("a", 0) := by simpa [m, values] using member
      rcases listed with rfl | rfl <;> rfl
    obtain ⟨written, encoded, again⟩ := back m write rfl inverse
    obtain rfl : [("b", some 3), ("a", some 0)] = written := Except.ok.inj encoded
    exact ⟨rfl, again⟩

end Keyed
end ChatGateway
