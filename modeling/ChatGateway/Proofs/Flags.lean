import ChatGateway.Flags.Tables
import ChatGateway.Flags.Wire
import ChatGateway.Proofs.Number
import Mathlib.Data.List.Nodup

/-! Flag sets after any changes. Bit by bit, a set holds what the last change that lists a flag made
of it and is unchanged elsewhere; the named flags and the bits without a name are two parts that
share nothing and make up the whole. On the wire a set is exact or refused. -/
namespace ChatGateway

namespace Bits

theorem testBit_of_le {n i : Nat} (above : n ≤ i) : n.testBit i = false :=
  Nat.testBit_lt_two_pow
    (lt_of_lt_of_le n.lt_two_pow_self (Nat.pow_le_pow_right (by decide) above))

/-- From some position on, a natural number holds none and a negative integer all. -/
theorem exists_mem_ne (m n : Nat) : ∃ i, mem i (.ofNat m) ≠ mem i (.negSucc n) :=
  ⟨m + n, by simp [mem, @testBit_of_le m (m + n), @testBit_of_le n (m + n)]⟩

/-- An integer is told by its positions. -/
theorem ext {m n : Int} (same : ∀ i, mem i m = mem i n) : m = n := by
  cases m with
  | ofNat m =>
    cases n with
    | ofNat n => exact congrArg Int.ofNat (Nat.eq_of_testBit_eq same)
    | negSucc n =>
      obtain ⟨i, differs⟩ := exists_mem_ne m n
      exact absurd (same i) differs
  | negSucc m =>
    cases n with
    | ofNat n =>
      obtain ⟨i, differs⟩ := exists_mem_ne n m
      exact absurd (same i).symm differs
    | negSucc n =>
      refine congrArg Int.negSucc (Nat.eq_of_testBit_eq fun i => ?_)
      simpa [mem] using same i

@[simp]
theorem mem_zero (i : Nat) : mem i 0 = false :=
  Nat.zero_testBit i

theorem mem_two_pow (i place : Nat) : mem i (2 ^ place) = decide (i = place) := by
  have natural : (2 : Int) ^ place = .ofNat (2 ^ place) := (Int.natCast_pow 2 place).symm
  rw [natural, mem, Nat.testBit_two_pow]
  exact decide_eq_decide.mpr eq_comm

/-- The natural numbers of so many bits are the integers without positions beyond. -/
theorem bounded_iff {n : Int} {width : Nat} :
    (0 ≤ n ∧ n < 2 ^ width) ↔ ∀ i, width ≤ i → mem i n = false := by
  cases n with
  | ofNat n =>
    have small : (0 ≤ Int.ofNat n ∧ Int.ofNat n < 2 ^ width) ↔ n < 2 ^ width := by
      rw [Int.ofNat_eq_natCast]
      exact ⟨fun bounds => by exact_mod_cast bounds.2,
        fun below => ⟨Int.natCast_nonneg n, by exact_mod_cast below⟩⟩
    rw [small]
    constructor
    · intro below i above
      exact Nat.testBit_lt_two_pow (lt_of_lt_of_le below (Nat.pow_le_pow_right (by decide) above))
    · exact Nat.lt_pow_two_of_testBit n
  | negSucc n =>
    constructor
    · rintro ⟨natural, _⟩
      exact absurd natural (Int.negSucc_not_nonneg n).mp
    · intro none
      have beyond := none (n + width) (Nat.le_add_left ..)
      rw [mem, testBit_of_le (Nat.le_add_right ..)] at beyond
      contradiction

theorem mem_foldl_union {α : Type} (bits : α → Int) (items : List α) (start : Int) (i : Nat) :
    mem i (items.foldl (fun acc item => union acc (bits item)) start) =
      (mem i start || items.any fun item => mem i (bits item)) := by
  induction items generalizing start with
  | nil => simp
  | cons item rest ih => rw [List.foldl_cons, ih, mem_union, List.any_cons, Bool.or_assoc]

end Bits

/-! ### Tables -/

namespace FlagTable

/-- Each name stands for one bit, and no two names for the same. -/
structure Separate (t : FlagTable) : Prop where
  names : t.names.Nodup
  single : ∀ entry ∈ t.bits, ∃ place : Nat, entry.2 = 2 ^ place
  apart : (t.bits.map Prod.snd).Nodup

/-- The tables that come with the gateway's records. -/
def shipped : List FlagTable := [activity, userPublic, application]

/-- The position is one of the flag's bits. -/
def covers (t : FlagTable) (flag : String) (i : Nat) : Bool :=
  (t.bits.lookup flag).any (Bits.mem i)

theorem bit_eq_two_pow (i : Nat) : bit i = 2 ^ i := by
  rw [bit, Nat.shiftLeft_eq, Nat.one_mul, Int.natCast_pow]
  rfl

theorem separate_shipped : ∀ t ∈ shipped, t.Separate := by
  have single {bits : List (String × Int)} (places : List Nat)
      (listed : bits.map Prod.snd = places.map bit) :
      ∀ entry ∈ bits, ∃ place : Nat, entry.2 = 2 ^ place := by
    intro entry member
    have held : entry.2 ∈ places.map bit := listed ▸ List.mem_map_of_mem member
    obtain ⟨place, _, same⟩ := List.mem_map.mp held
    exact ⟨place, same ▸ bit_eq_two_pow place⟩
  intro t member
  simp only [shipped, List.mem_cons, List.not_mem_nil, or_false] at member
  rcases member with rfl | rfl | rfl
  · exact ⟨by decide, single [0, 1, 2, 3, 4, 5, 6, 7, 8] rfl, by decide⟩
  · exact ⟨by decide, single [0, 1, 2, 3, 6, 7, 8, 9, 10, 12, 14, 16, 17, 18, 19] rfl, by decide⟩
  · exact ⟨by decide, single [12, 13, 14, 15, 16, 17, 18, 19] rfl, by decide⟩

theorem bounded_shipped : ∀ t ∈ shipped, ∀ entry ∈ t.bits, 0 ≤ entry.2 ∧ entry.2 < 2 ^ 53 := by
  decide

section
variable {t : FlagTable} {flag other : String} {bits : Int}

theorem mem_names_iff : flag ∈ t.names ↔ ∃ bits, t.bits.lookup flag = some bits := by
  constructor
  · intro member
    cases held : t.bits.lookup flag with
    | some bits => exact ⟨bits, rfl⟩
    | none =>
      obtain ⟨entry, listed, rfl⟩ := List.mem_map.mp member
      have differs := List.lookup_eq_none_iff.mp held entry listed
      simp at differs
  · rintro ⟨bits, held⟩
    exact List.mem_map_of_mem (Fields.mem_of_lookup held)

/-- A named flag has one position, which no other flag has. -/
theorem Separate.place (separate : t.Separate) (named : flag ∈ t.names) :
    ∃ place : Nat, t.bits.lookup flag = some (2 ^ place) ∧
      ∀ other, t.covers other place = (other == flag) := by
  obtain ⟨bits, held⟩ := mem_names_iff.mp named
  obtain ⟨place, single⟩ := separate.single _ (Fields.mem_of_lookup held)
  obtain rfl : bits = 2 ^ place := single
  refine ⟨place, held, fun other => ?_⟩
  unfold covers
  cases found : t.bits.lookup other with
  | none =>
    have differs : other ≠ flag := by
      rintro rfl
      rw [held] at found
      contradiction
    simp [differs]
  | some bits =>
    obtain ⟨own, single⟩ := separate.single _ (Fields.mem_of_lookup found)
    obtain rfl : bits = 2 ^ own := single
    rw [Option.any_some, Bits.mem_two_pow, Bool.eq_iff_iff, decide_eq_true_eq, beq_iff_eq]
    constructor
    · rintro rfl
      exact congrArg Prod.fst (List.inj_on_of_nodup_map separate.apart (Fields.mem_of_lookup found)
        (Fields.mem_of_lookup held) rfl)
    · rintro rfl
      rw [held] at found
      have same := congrArg (Bits.mem place) (Option.some.inj found)
      simpa [Bits.mem_two_pow] using same

/-- No flag has a position that no entry of the table has. -/
theorem covers_of_free {i : Nat} (free : ∀ entry ∈ t.bits, Bits.mem i entry.2 = false)
    (flag : String) : t.covers flag i = false := by
  unfold covers
  cases held : t.bits.lookup flag with
  | none => rfl
  | some bits => exact free _ (Fields.mem_of_lookup held)

theorem bitsOf_of_lookup (held : t.bits.lookup flag = some bits) : t.bitsOf flag = .ok bits := by
  rw [bitsOf, held]

theorem mem_knownBits (t : FlagTable) (i : Nat) :
    Bits.mem i t.knownBits = t.bits.any fun entry => Bits.mem i entry.2 := by
  rw [knownBits, Bits.mem_foldl_union Prod.snd, Bits.mem_zero, Bool.false_or]

end
end FlagTable

/-! ### Changes -/

/-- A call that gives a set with further flags or with fewer. -/
inductive FlagChange where
  | insert (flags : List String)
  | erase (flags : List String)

namespace FlagChange

def flags : FlagChange → List String
  | insert flags | erase flags => flags

/-- The change makes its flags set. -/
def adds : FlagChange → Bool
  | insert _ => true
  | erase _ => false

def apply (s : FlagSet) : FlagChange → Except UnknownFlag FlagSet
  | insert flags => s.insert flags
  | erase flags => s.erase flags

/-- What the last of the changes that concern it made of something, `before` where none does. -/
def latest (concerns : FlagChange → Bool) (before : Bool) (changes : List FlagChange) : Bool :=
  ((changes.reverse.find? concerns).map adds).getD before

theorem latest_cons (concerns : FlagChange → Bool) (before : Bool) (change : FlagChange)
    (rest : List FlagChange) : latest concerns before (change :: rest) =
      latest concerns (if concerns change then change.adds else before) rest := by
  rw [latest, latest, List.reverse_cons, List.find?_append]
  cases rest.reverse.find? concerns with
  | some last => rfl
  | none => by_cases own : concerns change = true <;> simp [own]

theorem latest_of_none {concerns : FlagChange → Bool} {changes : List FlagChange}
    (none : ∀ change ∈ changes, concerns change = false) (before : Bool) :
    latest concerns before changes = before := by
  rw [latest, List.find?_eq_none.mpr fun change member => by
    simp [none change (List.mem_reverse.mp member)]]
  rfl

end FlagChange

/-- The set after changes, one after the other. -/
def FlagSet.after (s : FlagSet) (changes : List FlagChange) : Except UnknownFlag FlagSet :=
  changes.foldlM FlagChange.apply s

/-- A fold over named flags that writes `value` at the positions of each leaves it at all of
them. -/
theorem FlagTable.foldlM_named {t : FlagTable} {write : Int → Int → Int} {value : Bool}
    (writes : ∀ i m n, Bits.mem i (write m n) = if Bits.mem i n then value else Bits.mem i m)
    {flags : List String} (named : ∀ flag ∈ flags, flag ∈ t.names) (start : Int) :
    ∃ bits, flags.foldlM (fun acc flag => do return write acc (← t.bitsOf flag)) start = .ok bits ∧
      ∀ i, Bits.mem i bits = if flags.any (t.covers · i) then value else Bits.mem i start := by
  induction flags generalizing start with
  | nil => exact ⟨start, rfl, fun _ => rfl⟩
  | cons flag rest ih =>
    rw [List.forall_mem_cons] at named
    obtain ⟨own, held⟩ := FlagTable.mem_names_iff.mp named.1
    obtain ⟨bits, folded, result⟩ := ih named.2 (write start own)
    refine ⟨bits, ?_, fun i => ?_⟩
    · rw [List.foldlM_cons, FlagTable.bitsOf_of_lookup held]
      exact folded
    · have covers : t.covers flag i = Bits.mem i own := by rw [covers, held, Option.any_some]
      rw [result, writes, List.any_cons, covers]
      cases Bits.mem i own <;> simp

namespace FlagSet

theorem insert_named {s : FlagSet} {flags : List String}
    (named : ∀ flag ∈ flags, flag ∈ s.table.names) :
    ∃ t, s.insert flags = .ok t ∧ t.table = s.table ∧ ∀ i, Bits.mem i t.bits =
      if flags.any (s.table.covers · i) then true else Bits.mem i s.bits := by
  have writes : ∀ i m n, Bits.mem i (Bits.union m n) =
      if Bits.mem i n then true else Bits.mem i m := by
    intro i m n
    cases held : Bits.mem i n <;> simp [held]
  obtain ⟨bits, folded, result⟩ := FlagTable.foldlM_named writes named s.bits
  refine ⟨⟨s.table, bits⟩, ?_, rfl, result⟩
  rw [insert, folded]
  rfl

theorem erase_named {s : FlagSet} {flags : List String}
    (named : ∀ flag ∈ flags, flag ∈ s.table.names) :
    ∃ t, s.erase flags = .ok t ∧ t.table = s.table ∧ ∀ i, Bits.mem i t.bits =
      if flags.any (s.table.covers · i) then false else Bits.mem i s.bits := by
  have writes : ∀ i m n, Bits.mem i (Bits.diff m n) =
      if Bits.mem i n then false else Bits.mem i m := by
    intro i m n
    cases held : Bits.mem i n <;> simp [held]
  obtain ⟨bits, folded, result⟩ := FlagTable.foldlM_named writes named s.bits
  refine ⟨⟨s.table, bits⟩, ?_, rfl, result⟩
  rw [erase, folded]
  rfl

/-- One change of named flags writes their positions and keeps all others. -/
theorem apply_named {s : FlagSet} {change : FlagChange}
    (named : ∀ flag ∈ change.flags, flag ∈ s.table.names) :
    ∃ t, change.apply s = .ok t ∧ t.table = s.table ∧ ∀ i, Bits.mem i t.bits =
      if change.flags.any (s.table.covers · i) then change.adds else Bits.mem i s.bits := by
  cases change with
  | insert flags => exact insert_named named
  | erase flags => exact erase_named named

/-- After changes a position is as the last change of a flag that covers it left it. -/
structure Written (s : FlagSet) (changes : List FlagChange) (t : FlagSet) : Prop where
  table : t.table = s.table
  mem : ∀ i, Bits.mem i t.bits =
    FlagChange.latest (fun change => change.flags.any (s.table.covers · i)) (Bits.mem i s.bits)
      changes

theorem exists_after {s : FlagSet} {changes : List FlagChange}
    (named : ∀ change ∈ changes, ∀ flag ∈ change.flags, flag ∈ s.table.names) :
    ∃ t, s.after changes = .ok t ∧ s.Written changes t := by
  -- The rest of the changes starts from the set that the first one left, over the same table.
  induction changes generalizing s with
  | nil => exact ⟨s, rfl, rfl, fun _ => rfl⟩
  | cons change rest ih =>
    rw [List.forall_mem_cons] at named
    obtain ⟨next, stepped, kept, written⟩ := apply_named named.1
    obtain ⟨t, run, table, result⟩ := @ih next (by rw [kept]; exact named.2)
    refine ⟨t, ?_, table.trans kept, fun i => ?_⟩
    · rw [after, List.foldlM_cons, stepped]
      exact run
    · rw [result, FlagChange.latest_cons, written, kept]

/-! ### Parts of a set -/

section
variable {s : FlagSet} {flag : String}

theorem holds_two_pow (s : FlagSet) (place : Nat) :
    s.holds (2 ^ place) = Bits.mem place s.bits := by
  rw [holds, Bool.eq_iff_iff, beq_iff_eq]
  constructor
  · intro same
    have own := congrArg (Bits.mem place) same
    simpa [Bits.mem_two_pow] using own
  · intro held
    apply Bits.ext
    intro i
    by_cases own : i = place
    · subst own
      simp [held]
    · simp [Bits.mem_two_pow, own]

theorem has_of_lookup {place : Nat} (held : s.table.bits.lookup flag = some (2 ^ place)) :
    s.has flag = .ok (Bits.mem place s.bits) := by
  rw [has, FlagTable.bitsOf_of_lookup held]
  exact congrArg Except.ok (holds_two_pow s place)

/-- The flags that are set are listed in table order. -/
theorem names_eq_filter (separate : s.table.Separate) :
    s.names = s.table.names.filter fun flag => s.has flag = .ok true := by
  rw [names, FlagTable.names, List.filter_map]
  refine congrArg (List.map Prod.fst) (List.filter_congr fun entry member => ?_)
  have own : s.has entry.1 = .ok (s.holds entry.2) := by
    rw [has, FlagTable.bitsOf_of_lookup (Fields.lookup_of_mem separate.names member)]
    rfl
  simp [own]

theorem mem_names_iff (separate : s.table.Separate) :
    flag ∈ s.names ↔ flag ∈ s.table.names ∧ s.has flag = .ok true := by
  simp [names_eq_filter separate]

theorem mem_unknownBits (s : FlagSet) (i : Nat) : Bits.mem i s.unknownBits =
    (Bits.mem i s.bits && !s.table.bits.any fun entry => Bits.mem i entry.2) := by
  rw [unknownBits, Bits.mem_diff, FlagTable.mem_knownBits]

/-- The positions of the flags that are set are those that the set holds and the table names. -/
theorem any_names_covers (separate : s.table.Separate) (i : Nat) :
    s.names.any (s.table.covers · i) =
      (Bits.mem i s.bits && s.table.bits.any fun entry => Bits.mem i entry.2) := by
  rw [Bool.eq_iff_iff, Bool.and_eq_true, List.any_eq_true, List.any_eq_true]
  constructor
  · rintro ⟨flag, set, covered⟩
    obtain ⟨named, own⟩ := (mem_names_iff separate).mp set
    obtain ⟨place, held, _⟩ := separate.place named
    rw [FlagTable.covers, held, Option.any_some] at covered
    obtain rfl : i = place := by simpa [Bits.mem_two_pow] using covered
    rw [has_of_lookup held, Except.ok.injEq] at own
    exact ⟨own, _, Fields.mem_of_lookup held, covered⟩
  · rintro ⟨own, entry, member, covered⟩
    obtain ⟨place, single⟩ := separate.single entry member
    have held := Fields.lookup_of_mem separate.names member
    rw [single] at covered held
    obtain rfl : i = place := by simpa [Bits.mem_two_pow] using covered
    refine ⟨entry.1, (mem_names_iff separate).mpr ⟨List.mem_map_of_mem member, ?_⟩, ?_⟩
    · rw [has_of_lookup held, own]
    · rw [FlagTable.covers, held, Option.any_some, covered]

/-- A set is made up of its named flags and of the bits without a name. -/
theorem exists_parts (separate : s.table.Separate) :
    ∃ named, ofNames s.table s.names = .ok named ∧
      s.bits = Bits.union named.bits s.unknownBits ∧ Bits.inter named.bits s.unknownBits = 0 := by
  have listed : ∀ flag ∈ s.names, flag ∈ (empty s.table).table.names :=
    fun flag member => ((mem_names_iff separate).mp member).1
  obtain ⟨named, built, _, written⟩ := insert_named listed
  have covered (i : Nat) : Bits.mem i named.bits =
      (Bits.mem i s.bits && s.table.bits.any fun entry => Bits.mem i entry.2) := by
    rw [written, ← any_names_covers separate]
    change (if s.names.any (s.table.covers · i) then true else Bits.mem i 0) = _
    cases s.names.any (s.table.covers · i) <;> simp
  refine ⟨named, built, Bits.ext fun i => ?_, Bits.ext fun i => ?_⟩
  · rw [Bits.mem_union, covered, mem_unknownBits]
    cases Bits.mem i s.bits <;> simp
  · rw [Bits.mem_inter, covered, mem_unknownBits, Bits.mem_zero]
    cases Bits.mem i s.bits <;> simp

/-- Two sets over one table are the same if they have the same named flags and the same bits without
a name. -/
theorem sameBits_iff (separate : s.table.Separate) {u : FlagSet} (table : u.table = s.table) :
    s.sameBits u = true ↔ s.names = u.names ∧ s.unknownBits = u.unknownBits := by
  rw [sameBits, beq_iff_eq]
  constructor
  · intro same
    obtain rfl : s = u := by
      cases s
      cases u
      cases table
      cases same
      rfl
    exact ⟨rfl, rfl⟩
  · rintro ⟨names, unknown⟩
    obtain ⟨one, built, whole, _⟩ := exists_parts separate
    obtain ⟨other, rebuilt, again, _⟩ := @exists_parts u (by rw [table]; exact separate)
    rw [table, ← names, built] at rebuilt
    obtain rfl := Except.ok.inj rebuilt
    rw [whole, again, unknown]

end
end FlagSet

/-! ### On the wire -/

/-- How a number is refused that stands for no set. -/
def FlagTable.refusal (t : FlagTable) (bits : Value) : Failure :=
  .decode (.structural t.name "flags.integer" (t.name ++ " must be a non-negative safe integer")
    bits)

theorem FlagTable.outcome_decode (t : FlagTable) (bits : Value) (context : Option Context) :
    (t.decode bits context).outcome = match bits.number?.bind Number.count? with
      | some n => .ok ⟨t, n⟩
      | none => .error (t.refusal bits) := by
  unfold decode
  split
  · rename_i none
    rw [none]
    rfl
  · rename_i n counted
    rw [counted]
    dsimp only
    split <;> rfl

theorem FlagTable.outcome_decode_ofNat (t : FlagTable) {n : Nat} (safe : n ≤ Number.safeLimit)
    (context : Option Context) :
    (t.decode (.number (.ofNat n)) context).outcome = .ok ⟨t, n⟩ := by
  rw [outcome_decode, Value.number?, Option.bind_some, Number.count?_ofNat safe]

/-- What was read is the natural number that the set has as its bits. -/
theorem FlagTable.eq_of_decode {t : FlagTable} {wire : Value} {context : Option Context}
    {s : FlagSet} (decoded : (t.decode wire context).outcome = .ok s) :
    ∃ n ≤ Number.safeLimit, wire = .number (.ofNat n) ∧ s = ⟨t, n⟩ := by
  rw [outcome_decode] at decoded
  split at decoded
  · rename_i n counted
    obtain ⟨number, held, counts⟩ := Option.bind_eq_some_iff.mp counted
    obtain ⟨rfl, safe⟩ := Number.count?_eq_some_iff.mp counts
    refine ⟨n, safe, ?_, (Except.ok.inj decoded).symm⟩
    cases wire <;> simp_all [Value.number?]
  · contradiction

namespace FlagSet

/-- What changes make of a set. Each named flag is as the last change that lists it left it, and as
before where none does; the bits without a name stay. -/
structure Changed (s : FlagSet) (changes : List FlagChange) (t : FlagSet) : Prop where
  table : t.table = s.table
  has : ∀ flag ∈ s.table.names, ∃ before, s.has flag = .ok before ∧
    t.has flag = .ok (FlagChange.latest (·.flags.contains flag) before changes)
  unknown : t.unknownBits = s.unknownBits

/-- The set is told by its named flags, which are listed once each in table order, and by the bits
without a name. -/
structure Composed (s : FlagSet) : Prop where
  names : s.names = s.table.names.filter fun flag => s.has flag = .ok true
  nodup : s.names.Nodup
  parts : ∃ named, ofNames s.table s.names = .ok named ∧
    s.bits = Bits.union named.bits s.unknownBits ∧ Bits.inter named.bits s.unknownBits = 0
  same : ∀ u : FlagSet, u.table = s.table →
    (s.sameBits u = true ↔ s.names = u.names ∧ s.unknownBits = u.unknownBits)

theorem composed {s : FlagSet} (separate : s.table.Separate) : s.Composed where
  names := names_eq_filter separate
  nodup := by
    rw [names_eq_filter separate]
    exact separate.names.filter _
  parts := exists_parts separate
  same _ := sameBits_iff separate

section
variable {s t : FlagSet} {changes : List FlagChange}

/-- A position that the table does not name is not changed. -/
theorem Written.mem_of_free (written : s.Written changes t) {i : Nat}
    (free : ∀ entry ∈ s.table.bits, Bits.mem i entry.2 = false) :
    Bits.mem i t.bits = Bits.mem i s.bits := by
  rw [written.mem]
  refine FlagChange.latest_of_none (fun change _ => List.any_eq_false.mpr fun flag _ => ?_) _
  simp [FlagTable.covers_of_free free]

theorem Written.changed (written : s.Written changes t) (separate : s.table.Separate) :
    s.Changed changes t where
  table := written.table
  has := by
    intro flag named
    obtain ⟨place, held, own⟩ := separate.place named
    refine ⟨Bits.mem place s.bits, has_of_lookup held, ?_⟩
    have concerns : (fun change : FlagChange => change.flags.any (s.table.covers · place)) =
        (·.flags.contains flag) := by
      funext change
      simp only [own, List.contains_eq_any_beq, BEq.comm]
    rw [has_of_lookup (written.table ▸ held), written.mem, concerns]
  unknown := by
    apply Bits.ext
    intro i
    rw [mem_unknownBits, mem_unknownBits, written.table]
    cases known : s.table.bits.any fun entry => Bits.mem i entry.2 with
    | true => simp
    | false => rw [written.mem_of_free (by simpa using known)]

/-- The changes of a set keep to the width of the table and the set. -/
theorem Written.bounded (written : s.Written changes t) {width : Nat}
    (narrow : ∀ entry ∈ s.table.bits, 0 ≤ entry.2 ∧ entry.2 < 2 ^ width)
    (start : 0 ≤ s.bits ∧ s.bits < 2 ^ width) : 0 ≤ t.bits ∧ t.bits < 2 ^ width := by
  refine Bits.bounded_iff.mpr fun i beyond => ?_
  rw [written.mem_of_free fun entry member =>
    Bits.bounded_iff.mp (narrow entry member) i beyond]
  exact Bits.bounded_iff.mp start i beyond

end

theorem toNumber_ofNat {s : FlagSet} {n : Nat} (safe : n ≤ Number.safeLimit) (bits : s.bits = n) :
    s.toNumber = .ofNat n := by
  rw [toNumber, bits, Number.nearestInt_ofNat safe]

/-- A run of changes over a table of separate flags. It does to every flag what the last change that
lists it says and keeps the bits without a name, and what it reaches is told by names and such
bits. Over the tables that come with the records, whatever is reached from the wire is exact
there. -/
theorem after_changes :
    (∀ table ∈ FlagTable.shipped, table.Separate) ∧
    ∀ (s : FlagSet) (changes : List FlagChange), s.table.Separate →
      (∀ change ∈ changes, ∀ flag ∈ change.flags, flag ∈ s.table.names) →
      ∃ t, s.after changes = .ok t ∧ s.Changed changes t ∧ t.Composed ∧
        (s.table ∈ FlagTable.shipped →
          (∃ wire context, (s.table.decode wire context).outcome = .ok s) →
          ∃ n : Nat, n < 2 ^ 53 ∧ t.bits = n ∧ t.toNumber = .ofNat n) := by
  refine ⟨FlagTable.separate_shipped, fun s changes separate named => ?_⟩
  obtain ⟨t, run, written⟩ := exists_after named
  refine ⟨t, run, written.changed separate, composed (written.table ▸ separate), ?_⟩
  rintro member ⟨wire, context, decoded⟩
  obtain ⟨start, safe, _, whole⟩ := FlagTable.eq_of_decode decoded
  have bounded : 0 ≤ s.bits ∧ s.bits < 2 ^ 53 := by
    rw [whole]
    unfold Number.safeLimit at safe
    simp only
    omega
  obtain ⟨natural, below⟩ := written.bounded (FlagTable.bounded_shipped _ member) bounded
  obtain ⟨n, bits⟩ := Int.eq_ofNat_of_zero_le natural
  have small : n < 2 ^ 53 := by omega
  refine ⟨n, small, bits, toNumber_ofNat ?_ bits⟩
  unfold Number.safeLimit
  omega

/-- A set with a bit that has no name, after changes that list flags twice and again. -/
theorem after_changes_application :
    let s : FlagSet := ⟨FlagTable.application, 2 ^ 20 + 2 ^ 12⟩
    let changes : List FlagChange := [.insert ["EMBEDDED", "EMBEDDED"], .erase ["GATEWAY_PRESENCE"],
      .insert ["GATEWAY_PRESENCE", "GATEWAY_MESSAGE_CONTENT"], .erase ["EMBEDDED"]]
    ∃ t, s.after changes = .ok t ∧ s.Changed changes t ∧ t.Composed ∧
      ∃ n : Nat, n < 2 ^ 53 ∧ t.bits = n ∧ t.toNumber = .ofNat n := by
  intro s changes
  obtain ⟨t, run, changed, composed, wire⟩ := after_changes.2 s changes
    (after_changes.1 _ (by simp [s, FlagTable.shipped])) (by decide)
  refine ⟨t, run, changed, composed, wire (by simp [s, FlagTable.shipped]) ?_⟩
  exact ⟨.number (.ofNat (2 ^ 20 + 2 ^ 12)), none,
    FlagTable.outcome_decode_ofNat _ (by decide) none⟩

end FlagSet

/-- A number is read as the set with exactly its bits or refused, and written back the same. A set
is read back as itself if it has a natural number of safe size as its bits. All others are refused,
however their numbers are rounded. -/
theorem FlagTable.decode_exact (t : FlagTable) (context : Option Context) :
    (∀ n : Number,
      (∃ k ≤ Number.safeLimit, n = .ofNat k ∧
        (t.decode (.number n) context).outcome = .ok ⟨t, k⟩ ∧
        FlagTable.encode (.flags ⟨t, k⟩) = .ok (.number n)) ∨
      (¬ ∃ k ≤ Number.safeLimit, n = .ofNat k) ∧
        (t.decode (.number n) context).outcome = .error (t.refusal (.number n))) ∧
    ∀ bits : Int, ∃ wire, FlagTable.encode (.flags ⟨t, bits⟩) = .ok wire ∧
      (t.decode wire context).outcome =
        if 0 ≤ bits ∧ bits ≤ 2 ^ 53 - 1 then .ok ⟨t, bits⟩ else .error (t.refusal wire) := by
  constructor
  · intro n
    cases counted : n.count? with
    | some k =>
      obtain ⟨rfl, safe⟩ := Number.count?_eq_some_iff.mp counted
      refine .inl ⟨k, safe, rfl, outcome_decode_ofNat t safe context, ?_⟩
      rw [encode, FlagSet.toNumber_ofNat safe rfl]
    | none =>
      refine .inr ⟨?_, ?_⟩
      · rintro ⟨k, safe, rfl⟩
        rw [Number.count?_ofNat safe] at counted
        contradiction
      · rw [outcome_decode, Value.number?, Option.bind_some, counted]
  · intro bits
    refine ⟨.number (Number.nearestInt bits), rfl, ?_⟩
    split
    · rename_i inside
      obtain ⟨n, rfl⟩ := Int.eq_ofNat_of_zero_le inside.1
      have safe : n ≤ Number.safeLimit := by
        unfold Number.safeLimit
        omega
      rw [Number.nearestInt_ofNat safe, outcome_decode_ofNat t safe]
    · rename_i outside
      have beyond : ¬ (0 ≤ bits ∧ bits ≤ Number.safeLimit) := by
        unfold Number.safeLimit
        omega
      rw [outcome_decode, Value.number?, Option.bind_some,
        Number.count?_nearestInt_of_unsafe beyond]

end ChatGateway
