import ChatGateway.Digits
import ChatGateway.Number.Text
import ChatGateway.Proofs.Cut
import ChatGateway.Proofs.Number
import Mathlib.Tactic.Ring

/-! Numbers and their decimal texts. Digits denote a number by their positions, a written magnitude
denotes its digits times a power of ten, and that of a natural number is read back as the number. Two
natural numbers that are written alike are therefore the same. -/
namespace ChatGateway

namespace Digits

variable {digits : List Char}

theorem isDigit_toString {n : Nat} : ∀ c ∈ (toString n).toList, c.isDigit = true := by
  intro c member
  rw [Nat.toString_eq_repr, Nat.toList_repr] at member
  exact Nat.isDigit_of_mem_toDigits (by decide) (by decide) member

/-- Digits are read by position, the most significant first. -/
theorem decimal_eq_ofDigitChars (all : ∀ c ∈ digits, c.isDigit = true) :
    decimal digits = Nat.ofDigitChars 10 digits 0 := by
  rw [decimal, value, Nat.ofDigitChars_eq_foldl]
  apply List.foldl_ext
  intro acc c member
  rw [hex?, if_pos (all c member), Option.getD_some, Nat.mul_comm]
  rfl

theorem decimal_toString (n : Nat) : decimal (toString n).toList = n := by
  rw [decimal_eq_ofDigitChars isDigit_toString, Nat.toString_eq_repr, Nat.toList_repr]
  exact Nat.ofDigitChars_toDigits (by decide) (by decide)

theorem decimal_append_zero (digits : List Char) :
    decimal (digits ++ ['0']) = decimal digits * 10 := by
  rw [decimal, value, List.foldl_append]
  rfl

theorem decimal_append_zeros (digits : List Char) (k : Nat) :
    decimal (digits ++ List.replicate k '0') = decimal digits * 10 ^ k := by
  induction k with
  | zero => simp
  | succ k ih =>
    rw [List.replicate_succ', ← List.append_assoc, decimal_append_zero, ih, pow_succ, mul_assoc]

/-- Zeros in front do not change what digits denote. -/
theorem decimal_zeros (k : Nat) (digits : List Char) :
    decimal (List.replicate k '0' ++ digits) = decimal digits := by
  induction k with
  | zero => rfl
  | succ k ih =>
    rw [List.replicate_succ, List.cons_append, ← ih]
    rfl

end Digits

namespace Number

/-- The exponent that is written after its letter. -/
def exponentOf : List Char → Int
  | '-' :: digits => -(Digits.decimal digits : Int)
  | '+' :: digits => Digits.decimal digits
  | digits => Digits.decimal digits

/-- What a written magnitude denotes: its digits, with or without a point, times a power of ten. -/
def denoted (text : List Char) : Rat :=
  let (mantissa, power) := Cut.first 'e' text
  let (whole, fraction) := Cut.first '.' mantissa
  let digits := whole ++ fraction.getD []
  Digits.decimal digits * 10 ^ ((power.map exponentOf).getD 0 - ((fraction.getD []).length : Int))

/-- One digit, and the others after a point if there are any. -/
def mantissa (d : Char) (rest : List Char) : List Char :=
  if rest = [] then [d] else d :: '.' :: rest

/-- The text of an exponent. -/
def exponentText (e : Int) : List Char :=
  ((if e < 0 then "-" else "+") ++ toString e.natAbs).toList

/-- The forms of a written magnitude, each for its digits and the place of the point among them. -/
inductive Written : List Char → Int → List Char → Prop
  | large (digits : List Char) (k : Nat) :
      Written digits (digits.length + k) (digits ++ List.replicate k '0')
  | parted (whole fraction : List Char) :
      Written (whole ++ fraction) whole.length (whole ++ '.' :: fraction)
  | small (digits : List Char) (k : Nat) :
      Written digits (-k) ('0' :: '.' :: (List.replicate k '0' ++ digits))
  | scientific (d : Char) (rest : List Char) (e : Int) :
      Written (d :: rest) (e + 1) (mantissa d rest ++ 'e' :: exponentText e)

theorem written_write (l : Layout) {digits : List Char} (nonempty : digits ≠ []) (point : Int) :
    Written digits point (l.write (String.ofList digits) point).toList := by
  simp only [Layout.write, String.length_ofList, String.toList_ofList]
  split
  · obtain ⟨k, rfl⟩ : ∃ k : Nat, point = digits.length + k :=
      ⟨(point - digits.length).toNat, by omega⟩
    rw [add_sub_cancel_left, Int.toNat_natCast, String.toList_append, String.toList_ofList,
      String.toList_ofList]
    exact .large digits k
  · split
    · obtain ⟨k, rfl⟩ : ∃ k : Nat, point = k := ⟨point.toNat, by omega⟩
      have size : (digits.take k).length = k := List.length_take_of_le (by omega)
      have parted := Written.parted (digits.take k) (digits.drop k)
      rw [List.take_append_drop, size] at parted
      simpa using parted
    · split
      · obtain ⟨k, rfl⟩ : ∃ k : Nat, point = -(k : Int) := ⟨(-point).toNat, by omega⟩
        simpa using Written.small digits k
      · obtain ⟨d, rest, rfl⟩ := List.exists_cons_of_ne_nil nonempty
        have scientific := Written.scientific d rest (point - 1)
        rw [sub_add_cancel] at scientific
        cases rest <;> simpa [mantissa, exponentText] using scientific

section
variable {digits whole fraction power : List Char}

theorem not_mem_of_isDigit (all : ∀ c ∈ digits, c.isDigit = true) {c : Char}
    (other : c.isDigit = false) : c ∉ digits := by
  intro member
  rw [all c member] at other
  contradiction

theorem denoted_whole (all : ∀ c ∈ digits, c.isDigit = true) :
    denoted digits = Digits.decimal digits := by
  simp [denoted, Cut.first_of_not_mem (not_mem_of_isDigit all (rfl : 'e'.isDigit = false)),
    Cut.first_of_not_mem (not_mem_of_isDigit all (rfl : '.'.isDigit = false))]

theorem denoted_point (all : ∀ c ∈ whole, c.isDigit = true)
    (after : ∀ c ∈ fraction, c.isDigit = true) : denoted (whole ++ '.' :: fraction) =
      Digits.decimal (whole ++ fraction) * 10 ^ (-(fraction.length : Int)) := by
  have free : 'e' ∉ whole ++ '.' :: fraction := by
    simp [not_mem_of_isDigit all (rfl : 'e'.isDigit = false),
      not_mem_of_isDigit after (rfl : 'e'.isDigit = false)]
  simp [denoted, Cut.first_of_not_mem free,
    Cut.first_append (not_mem_of_isDigit all (rfl : '.'.isDigit = false))]

theorem denoted_power {mantissa : List Char} (free : 'e' ∉ mantissa) :
    denoted (mantissa ++ 'e' :: power) = denoted mantissa * 10 ^ exponentOf power := by
  simp only [denoted, Cut.first_append free, Cut.first_of_not_mem free, Option.map_some,
    Option.map_none, Option.getD_some, Option.getD_none, mul_assoc,
    ← zpow_add₀ (by decide : (10 : Rat) ≠ 0)]
  congr 2
  ring

theorem exponentOf_exponentText (e : Int) : exponentOf (exponentText e) = e := by
  by_cases negative : e < 0
  · rw [exponentText, if_pos negative, String.toList_append]
    change -(Digits.decimal (toString e.natAbs).toList : Int) = e
    rw [Digits.decimal_toString]
    omega
  · rw [exponentText, if_neg negative, String.toList_append]
    change (Digits.decimal (toString e.natAbs).toList : Int) = e
    rw [Digits.decimal_toString]
    omega

theorem isDigit_zeros (k : Nat) : ∀ c ∈ List.replicate k '0', c.isDigit = true := by
  intro c member
  obtain rfl := List.eq_of_mem_replicate member
  rfl

theorem denoted_mantissa {d : Char} {rest : List Char} (all : ∀ c ∈ d :: rest, c.isDigit = true) :
    denoted (mantissa d rest) = Digits.decimal (d :: rest) * 10 ^ (-(rest.length : Int)) := by
  obtain ⟨first, others⟩ := List.forall_mem_cons.mp all
  have single : ∀ c ∈ [d], c.isDigit = true := List.forall_mem_singleton.mpr first
  have point := denoted_point single others
  unfold mantissa
  split
  · rename_i alone
    simp [alone, denoted_whole single]
  · rwa [List.singleton_append, List.singleton_append] at point

theorem mem_mantissa {d c : Char} {rest : List Char} (member : c ∈ mantissa d rest) :
    c = '.' ∨ c ∈ d :: rest := by
  unfold mantissa at member
  split at member
  · exact .inr (List.mem_cons.mpr (.inl (List.mem_singleton.mp member)))
  · simp only [List.mem_cons] at member ⊢
    tauto

theorem mem_exponentText {c : Char} {e : Int} (member : c ∈ exponentText e) :
    c.isDigit = true ∨ c ∈ "+-".toList := by
  rw [exponentText, String.toList_append, List.mem_append] at member
  rcases member with sign | digit
  · right
    split at sign <;> simp_all
  · exact .inl (Digits.isDigit_toString c digit)

/-- Wherever the point stands, what is written denotes the digits times a power of ten. -/
theorem denoted_of_written {point : Int} {text : List Char} (written : Written digits point text)
    (all : ∀ c ∈ digits, c.isDigit = true) :
    denoted text = Digits.decimal digits * 10 ^ (point - digits.length) := by
  cases written with
  | large _ k =>
    rw [denoted_whole (List.forall_mem_append.mpr ⟨all, isDigit_zeros k⟩),
      Digits.decimal_append_zeros, add_sub_cancel_left, zpow_natCast]
    push_cast
    rfl
  | parted whole fraction =>
    obtain ⟨before, after⟩ := List.forall_mem_append.mp all
    rw [denoted_point before after, List.length_append]
    congr 2
    omega
  | small _ k =>
    have zeros : ['0'] ++ List.replicate k '0' = List.replicate (k + 1) '0' := rfl
    have first : ∀ c ∈ ['0'], c.isDigit = true := isDigit_zeros 1
    have point := denoted_point first (List.forall_mem_append.mpr ⟨isDigit_zeros k, all⟩)
    rw [← List.append_assoc, zeros, Digits.decimal_zeros, List.length_append,
      List.length_replicate] at point
    rw [← List.singleton_append, point]
    congr 2
    omega
  | scientific d rest e =>
    have free : 'e' ∉ mantissa d rest := by
      intro member
      rcases mem_mantissa member with dot | digit
      · contradiction
      · exact not_mem_of_isDigit all rfl digit
    rw [denoted_power free, denoted_mantissa all, exponentOf_exponentText, mul_assoc,
      ← zpow_add₀ (by decide : (10 : Rat) ≠ 0), List.length_cons]
    congr 2
    omega

/-- The characters of a written magnitude are digits and a few marks. -/
theorem mem_of_written {point : Int} {text : List Char} (written : Written digits point text)
    (all : ∀ c ∈ digits, c.isDigit = true) :
    ∀ c ∈ text, c.isDigit = true ∨ c ∈ ".e+-".toList := by
  have digit {cs : List Char} (own : ∀ c ∈ cs, c.isDigit = true) :
      ∀ c ∈ cs, c.isDigit = true ∨ c ∈ ".e+-".toList := fun c member => .inl (own c member)
  cases written with
  | large _ k => exact digit (List.forall_mem_append.mpr ⟨all, isDigit_zeros k⟩)
  | parted whole fraction =>
    obtain ⟨before, after⟩ := List.forall_mem_append.mp all
    refine List.forall_mem_append.mpr ⟨digit before, List.forall_mem_cons.mpr ⟨?_, digit after⟩⟩
    exact .inr (by decide)
  | small _ k =>
    simp only [List.forall_mem_cons]
    refine ⟨.inl rfl, .inr (by decide), ?_⟩
    exact digit (List.forall_mem_append.mpr ⟨isDigit_zeros k, all⟩)
  | scientific d rest e =>
    refine List.forall_mem_append.mpr ⟨?_, List.forall_mem_cons.mpr ⟨.inr (by decide), ?_⟩⟩
    · intro c member
      rcases mem_mantissa member with rfl | own
      · exact .inr (by decide)
      · exact .inl (all c own)
    · intro c member
      rcases mem_exponentText member with own | sign
      · exact .inl own
      · right
        simp_all

end

theorem scaled_eq (base m : Nat) (e : Int) : scaled base m e = m * (base : Rat) ^ e := by
  unfold scaled
  split
  · obtain ⟨k, rfl⟩ : ∃ k : Nat, e = -(k : Int) := ⟨(-e).toNat, by omega⟩
    rw [neg_neg, Int.toNat_natCast, Nat.pow_eq, Rat.mkRat_eq_div, zpow_neg, zpow_natCast]
    push_cast
    rfl
  · obtain ⟨k, rfl⟩ : ∃ k : Nat, e = k := ⟨e.toNat, by omega⟩
    rw [Int.toNat_natCast, Nat.pow_eq, zpow_natCast]
    push_cast
    rfl

theorem Decimal.value_trimZeros (fuel : Nat) (d : Decimal) :
    (trimZeros fuel d).value = d.value := by
  induction fuel generalizing d with
  | zero => rfl
  | succ fuel ih =>
    rw [trimZeros]
    split
    · rename_i trailing
      have whole : d.digits = d.digits / 10 * 10 := by omega
      rw [ih, value, value, scaled_eq, scaled_eq, zpow_add_one₀ (by decide)]
      have value : (d.digits : Rat) = (d.digits / 10 : Nat) * 10 := by exact_mod_cast whole
      rw [value]
      push_cast
      ring
    · rfl

theorem readsBack_of_searchShortest {q : Rat} {places : Nat} {e : Int} {d : Decimal}
    (found : searchShortest q places e = some d) : d.readsBack q = true := by
  induction places generalizing e with
  | zero => contradiction
  | succ places ih =>
    rw [searchShortest] at found
    split at found
    · rename_i near
      obtain rfl := Option.some.inj found
      exact List.find?_some near
    · exact ih found

/-- A natural number of the binary64 format is the nearest one to its shortest decimal. -/
theorem nearest_shortest {n : Nat} (held : nearestInt n = ofNat n) :
    nearest (shortest n).value = ofNat n := by
  unfold shortest
  split
  · rename_i found
    rw [Decimal.value_trimZeros]
    exact eq_of_beq (readsBack_of_searchShortest found)
  · -- A search without a hit is answered with the number itself, so that none need be ruled out.
    have floor : (n : Rat).floor = n := Rat.floor_intCast n
    rw [floor, Int.toNat_natCast, Decimal.value, scaled_eq, zpow_zero, mul_one]
    exact held

theorem written_magnitudeText (q : Rat) : Written (toString (shortest q).digits).toList
    ((toString (shortest q).digits).length + (shortest q).exponent) (magnitudeText q).toList := by
  have nonempty : (toString (shortest q).digits).toList ≠ [] := by
    rw [Nat.toString_eq_repr, Nat.toList_repr]
    exact Nat.toDigits_ne_nil
  have written := written_write layout nonempty
    ((toString (shortest q).digits).length + (shortest q).exponent)
  rwa [String.ofList_toList] at written

theorem denoted_magnitudeText (q : Rat) :
    denoted (magnitudeText q).toList = (shortest q).value := by
  rw [denoted_of_written (written_magnitudeText q) Digits.isDigit_toString,
    Digits.decimal_toString, String.length_toList, add_sub_cancel_left, Decimal.value, scaled_eq]
  rfl

/-- What is written for a natural number is read back as the number. -/
theorem nearest_denoted {n : Nat} (held : nearestInt n = ofNat n) :
    nearest (denoted (ofNat n).text.toList) = ofNat n := by
  by_cases zero : n = 0
  · subst zero
    decide +kernel
  · have positive : 0 < (n : Rat) := by exact_mod_cast Nat.pos_of_ne_zero zero
    have shown : (ofNat n).text = magnitudeText n := by
      rw [ofNat, text, if_neg positive.ne', if_neg positive.le.not_gt]
    rw [shown, denoted_magnitudeText]
    exact nearest_shortest held

/-- A natural number of the binary64 format. As numbers are rounded to that format in transit, there
are no others on the wire. -/
def IsNatural (number : Number) : Prop :=
  ∃ n : Nat, nearestInt n = ofNat n ∧ number = ofNat n

theorem isNatural_of_safe {n : Nat} (safe : n ≤ safeLimit) : (ofNat n).IsNatural :=
  ⟨n, nearestInt_ofNat safe, rfl⟩

/-- Natural numbers that are written alike are the same. -/
theorem eq_of_text {a b : Number} (natural : a.IsNatural) (other : b.IsNatural)
    (same : a.text = b.text) : a = b := by
  obtain ⟨m, held, rfl⟩ := natural
  obtain ⟨n, kept, rfl⟩ := other
  rw [← nearest_denoted held, same, nearest_denoted kept]

theorem mem_magnitudeText (q : Rat) : ∀ c ∈ (magnitudeText q).toList,
    c.isDigit = true ∨ c ∈ ".e+-".toList :=
  mem_of_written (written_magnitudeText q) Digits.isDigit_toString

/-- No number has a bracket in its text. -/
theorem not_mem_text (n : Number) : ']' ∉ n.text.toList := by
  have free (q : Rat) : ']' ∉ (magnitudeText q).toList := by
    intro member
    have marks := mem_magnitudeText q _ member
    revert marks
    decide
  cases n with
  | nan => decide
  | infinite negative => cases negative <;> decide
  | finite q =>
    rw [text]
    split
    · decide
    · split
      · simpa using free (-q)
      · exact free q

end Number
end ChatGateway
