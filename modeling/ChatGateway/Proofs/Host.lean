import ChatGateway.Proofs.Cut
import ChatGateway.Proofs.Encoding
import Mathlib.Data.Nat.Digits.Defs

/-! Hosts of links. Addresses are written as URIs may have them, and names hold no characters but
those that a host keeps. -/
namespace ChatGateway

theorem forall_mem_of_mapM {α β : Type} {f : α → Option β} {p : β → Prop} {xs : List α}
    {ys : List β} (each : ∀ x y, f x = some y → p y) (mapped : xs.mapM f = some ys) :
    ∀ y ∈ ys, p y := by
  induction xs generalizing ys with
  | nil =>
    obtain rfl := Option.some.inj mapped
    exact List.forall_mem_nil p
  | cons x xs ih =>
    rw [List.mapM_cons] at mapped
    obtain ⟨y, first, mapped⟩ := Option.bind_eq_some_iff.mp mapped
    obtain ⟨rest, others, mapped⟩ := Option.bind_eq_some_iff.mp mapped
    obtain rfl := Option.some.inj mapped
    exact List.forall_mem_cons.mpr ⟨each x y first, ih others⟩

namespace Digits

theorem isHex_digitChar {d : Nat} (small : d < 16) : isHex d.digitChar = true := by
  revert d
  decide

theorem isHex_of_mem_toHex {n : Nat} {c : Char} (member : c ∈ toHex n) : isHex c = true := by
  induction n using Nat.strongRecOn with
  | ind n ih =>
    rw [toHex, Nat.toDigits_eq_if (by decide)] at member
    split at member
    · rename_i small
      obtain rfl := List.mem_singleton.mp member
      exact isHex_digitChar small
    · rename_i large
      rcases List.mem_append.mp member with front | last
      · exact ih (n / 16) (by omega) front
      · obtain rfl := List.mem_singleton.mp last
        exact isHex_digitChar (Nat.mod_lt _ (by decide))

theorem hex?_lt {c : Char} {d : Nat} (digit : hex? c = some d) : d < 16 := by
  unfold hex? at digit
  split at digit
  · rename_i decimal
    simp only [Char.isDigit, Bool.and_eq_true, decide_eq_true_eq] at decimal
    obtain rfl := Option.some.inj digit
    have := decimal.2
    have : c.toNat ≤ 57 := this
    omega
  · split at digit
    · rename_i lower
      obtain rfl := Option.some.inj digit
      have : c.toNat ≤ 102 := lower.2
      omega
    · split at digit
      · rename_i upper
        obtain rfl := Option.some.inj digit
        have : c.toNat ≤ 70 := upper.2
        omega
      · contradiction

theorem value_lt (digits : List Char) : value 16 digits < 16 ^ digits.length := by
  have step (acc : Nat) : digits.foldl (fun acc d => acc * 16 + (hex? d).getD 0) acc <
      (acc + 1) * 16 ^ digits.length := by
    induction digits generalizing acc with
    | nil => simp
    | cons c rest ih =>
      have small : (hex? c).getD 0 < 16 := by
        cases digit : hex? c with
        | none => decide
        | some d => exact hex?_lt digit
      calc (c :: rest).foldl (fun acc d => acc * 16 + (hex? d).getD 0) acc
          < (acc * 16 + (hex? c).getD 0 + 1) * 16 ^ rest.length := ih _
        _ ≤ ((acc + 1) * 16) * 16 ^ rest.length :=
          Nat.mul_le_mul_right _ (by omega)
        _ = (acc + 1) * 16 ^ (c :: rest).length := by
          rw [List.length_cons, pow_succ', Nat.mul_assoc]
  have all := step 0
  rwa [Nat.zero_add, Nat.one_mul] at all

end Digits

namespace Url

/-! ### Version 4 -/

theorem octetText_spec (n : Nat) : (toString (n % 256)).toList.length ≤ 3 ∧
    ∀ c ∈ (toString (n % 256)).toList, Uri.isName c = true := by
  have table : ∀ k < 256, (toString k).toList.length ≤ 3 ∧
      (toString k).toList.all Uri.isName = true := by
    decide +kernel
  obtain ⟨short, names⟩ := table (n % 256) (Nat.mod_lt _ (by decide))
  exact ⟨short, List.all_eq_true.mp names⟩

theorem text4_spec (n : Nat) : (text4 n).toList ≠ [] ∧ (text4 n).toList.length ≤ 255 ∧
    ∀ c ∈ (text4 n).toList, Uri.isName c = true := by
  have point : Uri.isName '.' = true := by decide
  have text : (text4 n).toList = (toString ((n >>> 24) % 256)).toList ++
      '.' :: ((toString ((n >>> 16) % 256)).toList ++
      '.' :: ((toString ((n >>> 8) % 256)).toList ++
      '.' :: (toString (n % 256)).toList)) := by
    rw [text4, String.toList_intercalate]
    simp [List.intercalate_cons_cons]
  obtain ⟨short₁, names₁⟩ := octetText_spec (n >>> 24)
  obtain ⟨short₂, names₂⟩ := octetText_spec (n >>> 16)
  obtain ⟨short₃, names₃⟩ := octetText_spec (n >>> 8)
  obtain ⟨short₄, names₄⟩ := octetText_spec n
  rw [text]
  refine ⟨by simp, ?_, ?_⟩
  · simp only [List.length_append, List.length_cons]
    omega
  · simp only [List.forall_mem_append, List.forall_mem_cons]
    exact ⟨names₁, point, names₂, point, names₃, point, names₄⟩

/-! ### Version 6 -/

/-- The groups of a version 6 address. -/
structure IsAddress6 (groups : List Nat) : Prop where
  size : groups.length = 8
  small : ∀ group ∈ groups, group < 65536

theorem isGroup_toHex {n : Nat} (small : n < 65536) : Uri.isGroup (Digits.toHex n) = true := by
  have short : (Digits.toHex n).length ≤ 4 :=
    (Nat.length_toDigits_le_iff (by decide) (by decide)).mpr small
  have digits : (Digits.toHex n).all Digits.isHex = true :=
    List.all_eq_true.mpr fun c member => Digits.isHex_of_mem_toHex member
  have nonempty : (Digits.toHex n).isEmpty = false :=
    List.isEmpty_eq_false_iff.mpr Nat.toDigits_ne_nil
  simp [Uri.isGroup, short, digits, nonempty]

theorem whole_of_isGroup {part : List Char} (group : Uri.isGroup part = true) :
    part ≠ [] ∧ ':' ∉ part := by
  simp only [Uri.isGroup, Bool.and_eq_true, Bool.not_eq_true', List.isEmpty_eq_false_iff,
    List.all_eq_true] at group
  refine ⟨group.1.1, ?_⟩
  intro colon
  exact absurd (group.2 _ colon) (by decide)

theorem groups_intercalate {parts : List (List Char)}
    (each : ∀ part ∈ parts, Uri.isGroup part = true) :
    Uri.groups (List.intercalate [':'] parts) = parts := by
  cases parts with
  | nil => rfl
  | cons part rest =>
    have nonempty : List.intercalate [':'] (part :: rest) ≠ [] := by
      have whole := (whole_of_isGroup (each part List.mem_cons_self)).1
      cases rest <;> simp [whole]
    rw [Uri.groups, if_neg (by simpa using nonempty)]
    apply Cut.split_intercalate _ (List.cons_ne_nil _ _)
    intro part member
    exact (whole_of_isGroup (each part member)).2

theorem groupCount?_eq {parts : List (List Char)}
    (each : ∀ part ∈ parts, Uri.isGroup part = true) :
    Uri.groupCount? parts = some parts.length := by
  induction parts with
  | nil => rfl
  | cons part rest ih =>
    simp only [List.forall_mem_cons] at each
    cases rest with
    | nil => rw [Uri.groupCount?, if_pos each.1, List.length_singleton]
    | cons next others =>
      rw [Uri.groupCount?, if_pos each.1, ih each.2]
      · rfl
      · nofun

theorem length_zeroRuns (groups : List Nat) : (zeroRuns groups).length = groups.length := by
  induction groups with
  | nil => rfl
  | cons group rest ih => rw [zeroRuns, List.length_cons, List.length_cons, ih]

theorem bounds_of_longestZeros? {groups : List Nat} {place length : Nat}
    (found : longestZeros? groups = some (place, length)) :
    place < groups.length ∧ 2 ≤ length := by
  rw [longestZeros?] at found
  split at found
  · contradiction
  · rename_i long
    obtain ⟨index, run, same⟩ := Option.map_eq_some_iff.mp found
    obtain ⟨rfl, rfl⟩ := Prod.mk.inj same
    obtain ⟨inside, _⟩ := List.idxOf?_eq_some_iff.mp run
    rw [← length_zeroRuns groups]
    exact ⟨inside, Nat.not_lt.mp long⟩

theorem toList_groupsText (groups : List Nat) :
    (groupsText groups).toList = List.intercalate [':'] (groups.map Digits.toHex) := by
  rw [groupsText, String.toList_intercalate, List.map_map]
  congr 1
  simp

theorem isAddress6_intercalate {parts : List (List Char)}
    (each : ∀ part ∈ parts, Uri.isGroup part = true) (eight : parts.length = 8) :
    Uri.isAddress6 (List.intercalate [':'] parts) = true := by
  have single := Cut.doubleColon_intercalate
    (fun part listed => whole_of_isGroup (each part listed)) []
  rw [List.append_nil] at single
  rw [Uri.isAddress6, single]
  simp only [Cut.doubleColon, Option.map_none, groups_intercalate each, groupCount?_eq each, eight,
    beq_self_eq_true]

theorem isAddress6_doubleColon {front back : List (List Char)}
    (first : ∀ part ∈ front, Uri.isGroup part = true)
    (second : ∀ part ∈ back, Uri.isGroup part = true) (few : front.length + back.length ≤ 7) :
    Uri.isAddress6 (List.intercalate [':'] front ++ ':' :: ':' :: List.intercalate [':'] back) =
      true := by
  have cut := Cut.doubleColon_intercalate (fun part listed => whole_of_isGroup (first part listed))
    (':' :: ':' :: List.intercalate [':'] back)
  rw [Uri.isAddress6, cut]
  simp only [Cut.doubleColon, Option.map_some, List.append_nil, groups_intercalate first,
    groups_intercalate second, groupCount?_eq second, Bool.and_eq_true, List.all_eq_true,
    decide_eq_true_eq]
  exact ⟨first, few⟩

/-- The written form of an address is one that URIs may have. -/
theorem isAddress6_text6 {groups : List Nat} (address : IsAddress6 groups) :
    Uri.isAddress6 (text6 groups).toList = true := by
  have each {part : List Nat} (among : part ⊆ groups) :
      ∀ text ∈ part.map Digits.toHex, Uri.isGroup text = true := by
    rw [List.forall_mem_map]
    exact fun group member => isGroup_toHex (address.small group (among member))
  rw [text6]
  cases found : longestZeros? groups with
  | none =>
    rw [toList_groupsText]
    apply isAddress6_intercalate (each (List.Subset.refl groups))
    rw [List.length_map, address.size]
  | some run =>
    obtain ⟨place, length⟩ := run
    obtain ⟨inside, long⟩ := bounds_of_longestZeros? found
    have shortened := isAddress6_doubleColon (each (List.take_subset place groups))
      (each (List.drop_subset (place + length) groups)) (by
        simp only [List.length_map, List.length_take, List.length_drop, address.size] at inside ⊢
        omega)
    simpa [toList_groupsText] using shortened

theorem mem_text6 (groups : List Nat) :
    ∀ c ∈ (text6 groups).toList, Digits.isHex c = true ∨ c = ':' := by
  have each (part : List Nat) :
      ∀ c ∈ (groupsText part).toList, Digits.isHex c = true ∨ c = ':' := by
    rw [toList_groupsText]
    refine Cut.forall_mem_intercalate (.inr rfl) ?_
    rw [List.forall_mem_map]
    exact fun group _ c member => .inl (Digits.isHex_of_mem_toHex member)
  rw [text6]
  split
  · exact each groups
  · rw [String.toList_append, String.toList_append]
    simp only [List.forall_mem_append]
    exact ⟨⟨each _, List.forall_iff_forall_mem.mp (by decide)⟩, each _⟩

/-! ### Reading -/

theorem group?_lt {text : List Char} {n : Nat} (read : group? text = some n) : n < 65536 := by
  rw [group?] at read
  split at read
  · contradiction
  · rename_i allowed
    obtain rfl := Option.some.inj read
    simp only [Bool.or_eq_true, decide_eq_true_eq, not_or] at allowed
    calc Digits.value 16 text < 16 ^ text.length := Digits.value_lt text
      _ ≤ 16 ^ 4 := Nat.pow_le_pow_right (by decide) (by omega)

theorem octet?_le {text : List Char} {n : Nat} (read : octet? text = some n) : n ≤ 255 := by
  rw [octet?] at read
  split at read
  · contradiction
  · dsimp only at read
    split at read
    · rename_i small
      obtain rfl := Option.some.inj read
      exact small
    · contradiction

theorem tail4?_small {text : List Char} {groups : List Nat} (read : tail4? text = some groups) :
    ∀ group ∈ groups, group < 65536 := by
  rw [tail4?] at read
  split at read
  · rename_i a b c d octets
    obtain rfl := Option.some.inj read
    have each := forall_mem_of_mapM (fun _ _ => octet?_le) octets
    simp only [List.forall_mem_cons] at each ⊢
    exact ⟨by omega, by omega, by simp⟩
  · contradiction

theorem groups?_small {parts : List (List Char)} {groups : List Nat}
    (read : groups? parts = some groups) : ∀ group ∈ groups, group < 65536 := by
  induction parts generalizing groups with
  | nil =>
    obtain rfl := Option.some.inj read
    exact List.forall_mem_nil _
  | cons part rest ih =>
    cases rest with
    | nil =>
      rw [groups?] at read
      cases single : group? part with
      | none =>
        rw [single] at read
        exact tail4?_small read
      | some group =>
        rw [single] at read
        obtain rfl := Option.some.inj read
        simpa using group?_lt single
    | cons next others =>
      rw [groups?] at read
      · obtain ⟨group, first, read⟩ := Option.bind_eq_some_iff.mp read
        obtain ⟨later, second, read⟩ := Option.bind_eq_some_iff.mp read
        obtain rfl := Option.some.inj read
        exact List.forall_mem_cons.mpr ⟨group?_lt first, ih second⟩
      · nofun

theorem groupsOf?_small {text : List Char} {groups : List Nat}
    (read : groupsOf? text = some groups) : ∀ group ∈ groups, group < 65536 := by
  rw [groupsOf?] at read
  split at read
  · obtain rfl := Option.some.inj read
    exact List.forall_mem_nil _
  · exact groups?_small read

theorem isAddress6_of_address6? {text : List Char} {groups : List Nat}
    (read : address6? text = some groups) : IsAddress6 groups := by
  rw [address6?] at read
  split at read
  · obtain ⟨all, listed, read⟩ := Option.bind_eq_some_iff.mp read
    split at read
    · rename_i eight
      obtain rfl := Option.some.inj read
      exact ⟨eight, groupsOf?_small listed⟩
    · contradiction
  · rename_i before after _
    obtain ⟨left, small, read⟩ : ∃ left : List Nat, (∀ group ∈ left, group < 65536) ∧
        ((groupsOf? after).bind fun right =>
          if left.length + right.length ≤ 7 then
            some (left ++ List.replicate (8 - left.length - right.length) 0 ++ right)
          else none) = some groups := by
      dsimp only at read
      split at read
      · exact ⟨[], List.forall_mem_nil _, read⟩
      · obtain ⟨left, parts, read⟩ := Option.bind_eq_some_iff.mp read
        exact ⟨left, forall_mem_of_mapM (fun _ _ => group?_lt) parts, read⟩
    obtain ⟨right, listed, read⟩ := Option.bind_eq_some_iff.mp read
    split at read
    · rename_i few
      obtain rfl := Option.some.inj read
      constructor
      · simp only [List.length_append, List.length_replicate]
        omega
      · simp only [List.forall_mem_append]
        refine ⟨⟨small, ?_⟩, groupsOf?_small listed⟩
        intro group zero
        rw [List.eq_of_mem_replicate zero]
        decide
    · contradiction

/-! ### Domain names -/

namespace Punycode

theorem digit_ascii {n : Nat} (small : n < 36) : (digit n).toNat < 128 := by
  revert n
  decide

theorem writeNumber_ascii (n k bias : Nat) : ∀ c ∈ writeNumber n k bias, c.toNat < 128 := by
  fun_induction writeNumber n k bias with
  | case1 n k t last =>
    have := (threshold_bounds k bias).2
    intro c member
    obtain rfl := List.mem_singleton.mp member
    exact digit_ascii (by omega)
  | case2 n k t more ih =>
    have bounds := threshold_bounds k bias
    have within := Nat.mod_lt (n - t) (show 0 < 36 - t by omega)
    exact List.forall_mem_cons.mpr ⟨digit_ascii (by omega), ih⟩

/-- What is written so far is ASCII. -/
def Writer.Ascii (w : Writer) : Prop :=
  ∀ number ∈ w.written, ∀ c ∈ number, c.toNat < 128

theorem Writer.places_ascii {w : Writer} (ascii : w.Ascii) (codePoint : Nat) (c : Char) :
    (w.places codePoint c).Ascii := by
  rw [places]
  split
  · exact ascii
  · split
    · exact List.forall_mem_cons.mpr ⟨writeNumber_ascii _ _ _, ascii⟩
    · exact ascii

theorem Writer.foldl_places_ascii {w : Writer} (ascii : w.Ascii) (codePoint : Nat)
    (label : List Char) : (label.foldl (places codePoint) w).Ascii := by
  induction label generalizing w with
  | nil => exact ascii
  | cons c rest ih => exact ih (places_ascii ascii codePoint c)

theorem Writer.points_ascii {w : Writer} (ascii : w.Ascii) (label : List Char) (current : Nat)
    (codePoints : List Nat) : (points label current w codePoints).Ascii := by
  induction codePoints generalizing current w with
  | nil => exact ascii
  | cons codePoint rest ih =>
    have start : Ascii { w with delta := w.delta + (codePoint - current) * (w.handled + 1) } :=
      ascii
    rw [points]
    apply ih
    exact foldl_places_ascii start codePoint label

theorem encode_ascii (label : List Char) : ∀ c ∈ encode label, c.toNat < 128 := by
  have basic : ∀ c ∈ label.filter (·.toNat < 128), c.toNat < 128 := by
    intro c member
    simpa using (List.mem_filter.mp member).2
  have written {w : Writer} (ascii : w.Ascii) : ∀ c ∈ w.written.reverse.flatten, c.toNat < 128 := by
    intro c member
    obtain ⟨number, listed, own⟩ := List.mem_flatten.mp member
    exact ascii number (List.mem_reverse.mp listed) c own
  have others := written (@Writer.points_ascii
    ⟨0, 72, (label.filter (·.toNat < 128)).length, (label.filter (·.toNat < 128)).length, []⟩
    (List.forall_mem_nil _) label 128
    ((label.map Char.toNat).filter (128 ≤ ·)).eraseDups.mergeSort)
  simp only [encode]
  split
  · exact others
  · exact List.forall_mem_append.mpr ⟨basic, List.forall_mem_cons.mpr ⟨by decide, others⟩⟩

end Punycode

theorem ascii_of_isAscii {text : List Char} (ascii : isAscii text = true) :
    ∀ c ∈ text, c.toNat < 128 := by
  simpa [isAscii] using ascii

theorem asciiLabel?_ascii {label text : List Char} (read : asciiLabel? label = some text) :
    ∀ c ∈ text, c.toNat < 128 := by
  rw [asciiLabel?] at read
  split at read
  · split at read
    · rename_i settled
      obtain rfl := Option.some.inj read
      exact ascii_of_isAscii (Bool.and_eq_true_iff.mp settled).1
    · contradiction
  · split at read
    · rename_i ascii
      obtain rfl := Option.some.inj read
      exact ascii_of_isAscii ascii
    · split at read
      · obtain rfl := Option.some.inj read
        have sign : ∀ c ∈ Label.encodedSign, c.toNat < 128 :=
          List.forall_iff_forall_mem.mp (by decide)
        exact List.forall_mem_append.mpr ⟨sign, Punycode.encode_ascii label⟩
      · contradiction

theorem asciiDomain?_ascii {name text : List Char} (read : asciiDomain? name = some text) :
    ∀ c ∈ text, c.toNat < 128 := by
  obtain ⟨plain, _, read⟩ := Option.bind_eq_some_iff.mp read
  obtain ⟨labels, mapped, read⟩ := Option.bind_eq_some_iff.mp read
  obtain rfl := Option.some.inj read
  exact Cut.forall_mem_intercalate (by decide)
    (forall_mem_of_mapM (fun _ _ => asciiLabel?_ascii) mapped)

/-! ### Hosts that are read -/

/-- A host may keep the character. -/
def IsHostChar (c : Char) : Prop :=
  encodesControl c = false ∧ isForbiddenInHost c = false

instance : DecidablePred IsHostChar :=
  fun _ => inferInstanceAs (Decidable (_ ∧ _))

/-- What holds of hosts that are read. -/
def Host.Sound : Host → Prop
  | .domain name => name ≠ "" ∧ ∀ c ∈ name.toList, IsHostChar c
  | .address4 _ => True
  | .address6 groups => IsAddress6 groups
  | .verbatim text => ∀ c ∈ text.toList, IsHostChar c

theorem text_address4_ne_empty (value : Nat) : (Host.address4 value).text ≠ "" :=
  fun empty => (text4_spec value).1 (String.toList_eq_nil_iff.mpr empty)

theorem text_address6_ne_empty (groups : List Nat) : (Host.address6 groups).text ≠ "" := by
  intro empty
  have brackets := congrArg String.toList empty
  simp [Host.text] at brackets

theorem verbatimHost?_sound {text : List Char} {host : Host}
    (read : verbatimHost? text = some host) : host.Sound ∧ (host.text = "" → text = []) := by
  rw [verbatimHost?] at read
  split at read
  · contradiction
  · rename_i allowed
    obtain rfl := Option.some.inj read
    simp only [List.any_eq_true, not_exists, not_and, Bool.not_eq_true] at allowed
    constructor
    · rw [Host.Sound, String.toList_ofList]
      apply forall_mem_percentEncode
      · decide
      · exact fun c member kept => ⟨kept, allowed c member⟩
    · intro empty
      cases text with
      | nil => rfl
      | cons c rest =>
        obtain ⟨d, others, encoded, _⟩ := percentEncode_cons encodesControl c rest
        rw [Host.text, encoded, ← String.toList_eq_nil_iff, String.toList_ofList] at empty
        contradiction

theorem isHostChar_of_domain {c : Char} (ascii : c.toNat < 128)
    (allowed : isForbiddenInDomain c = false) : IsHostChar c := by
  simp only [isForbiddenInDomain, Bool.or_eq_false_iff, decide_eq_false_iff_not,
    beq_eq_false_iff_ne] at allowed
  obtain ⟨⟨⟨host, control⟩, _⟩, delete⟩ := allowed
  refine ⟨?_, host⟩
  simp only [encodesControl, Bool.or_eq_false_iff, decide_eq_false_iff_not]
  omega

theorem domainHost?_sound {text : List Char} {host : Host} (read : domainHost? text = some host) :
    host.Sound ∧ host.text ≠ "" := by
  obtain ⟨decoded, _, read⟩ := Option.bind_eq_some_iff.mp read
  obtain ⟨name, mapped, read⟩ := Option.bind_eq_some_iff.mp read
  split at read
  · contradiction
  · rename_i allowed
    simp only [Bool.or_eq_true, List.isEmpty_iff, List.any_eq_true, not_or, not_exists, not_and,
      Bool.not_eq_true] at allowed
    split at read
    · obtain ⟨value, _, rfl⟩ := Option.map_eq_some_iff.mp read
      exact ⟨trivial, text_address4_ne_empty value⟩
    · obtain rfl := Option.some.inj read
      have nonempty : String.ofList name ≠ "" := by
        rw [ne_eq, ← String.toList_eq_nil_iff, String.toList_ofList]
        exact allowed.1
      refine ⟨⟨nonempty, ?_⟩, nonempty⟩
      rw [String.toList_ofList]
      intro c member
      exact isHostChar_of_domain (asciiDomain?_ascii mapped c member) (allowed.2 c member)

/-- A host that is read is sound, and it is empty only if nothing was there to read. -/
theorem host?_sound {special : Bool} {text : List Char} {host : Host}
    (read : host? special text = some host) : host.Sound ∧ (host.text = "" → text = []) := by
  rw [host?.eq_def] at read
  split at read
  · split at read
    · obtain ⟨groups, numbers, rfl⟩ := Option.map_eq_some_iff.mp read
      refine ⟨isAddress6_of_address6? numbers, ?_⟩
      exact fun empty => absurd empty (text_address6_ne_empty groups)
    · contradiction
  · split at read
    · obtain ⟨sound, nonempty⟩ := domainHost?_sound read
      exact ⟨sound, fun empty => absurd empty nonempty⟩
    · exact verbatimHost?_sound read

end Url
end ChatGateway
