import ChatGateway.Discriminator
import ChatGateway.Proofs.Numerals

/-! Discriminators as texts and as numbers. The two readings are inverse to each other: a written
discriminator is the decimal text of its number, filled up with zeros to four digits. -/
namespace ChatGateway.Discriminator

/-- A text filled up with zeros on the left to four characters. -/
def padded (text : String) : String :=
  String.ofList (List.replicate (4 - text.length) '0' ++ text.toList)

theorem isDigits_iff {most : Nat} {text : String} : isDigits most text = true ↔
    text.toList ≠ [] ∧ text.toList.length ≤ most ∧ ∀ c ∈ text.toList, c.isDigit = true := by
  simp [isDigits, and_assoc, ← String.length_toList]

/-- A digit is told by its value. -/
theorem digit_of_value {c : Char} (digit : c.isDigit = true) :
    ∃ d, d < 10 ∧ Digits.hex? c = some d ∧ c = Char.ofNat (48 + d) := by
  have bounds : 48 ≤ c.toNat ∧ c.toNat ≤ 57 := by
    simpa [Char.isDigit, UInt32.le_iff_toNat_le] using digit
  refine ⟨c.toNat - 48, by omega, by simp [Digits.hex?, digit], ?_⟩
  rw [Nat.add_sub_cancel' bounds.1, Char.ofNat_toNat]

theorem isDigit_ofNat (n : Nat) : (Char.ofNat (48 + n % 10)).isDigit = true := by
  have small : n % 10 < 10 := Nat.mod_lt _ (by decide)
  generalize n % 10 = d at small
  revert d
  decide

theorem hex?_ofNat (n : Nat) : Digits.hex? (Char.ofNat (48 + n % 10)) = some (n % 10) := by
  have small : n % 10 < 10 := Nat.mod_lt _ (by decide)
  generalize n % 10 = d at small
  revert d
  decide

@[simp]
theorem toList_fourDigits (n : Nat) : (fourDigits n).toList =
    [n / 1000, n / 100, n / 10, n].map fun d => Char.ofNat (48 + d % 10) := by
  simp only [fourDigits, String.toList_ofList]

theorem isDigits_fourDigits (n : Nat) : isDigits 4 (fourDigits n) = true := by
  rw [isDigits_iff]
  simp [isDigit_ofNat]

/-- The four digits of a number denote it. -/
theorem decimal_fourDigits {n : Nat} (small : n ≤ 9999) :
    Digits.decimal (fourDigits n).toList = n := by
  rw [toList_fourDigits]
  simp only [Digits.decimal, Digits.value, List.map_cons, List.map_nil, List.foldl_cons,
    List.foldl_nil, hex?_ofNat, Option.getD_some]
  omega

/-- Four digits are the digits of the number that they denote. -/
theorem four_digits_of_decimal {a b c d : Char}
    (digits : ∀ x ∈ [a, b, c, d], x.isDigit = true) :
    (fourDigits (Digits.decimal [a, b, c, d])).toList = [a, b, c, d] ∧
      Digits.decimal [a, b, c, d] ≤ 9999 := by
  obtain ⟨i, hi, vi, rfl⟩ := digit_of_value (digits a (by simp))
  obtain ⟨j, hj, vj, rfl⟩ := digit_of_value (digits b (by simp))
  obtain ⟨k, hk, vk, rfl⟩ := digit_of_value (digits c (by simp))
  obtain ⟨l, hl, vl, rfl⟩ := digit_of_value (digits d (by simp))
  have value : Digits.decimal [Char.ofNat (48 + i), Char.ofNat (48 + j), Char.ofNat (48 + k),
      Char.ofNat (48 + l)] = ((i * 10 + j) * 10 + k) * 10 + l := by
    simp [Digits.decimal, Digits.value, vi, vj, vk, vl]
  rw [value, toList_fourDigits]
  refine ⟨?_, by omega⟩
  have first : (((i * 10 + j) * 10 + k) * 10 + l) / 1000 % 10 = i := by omega
  have second : (((i * 10 + j) * 10 + k) * 10 + l) / 100 % 10 = j := by omega
  have third : (((i * 10 + j) * 10 + k) * 10 + l) / 10 % 10 = k := by omega
  have fourth : (((i * 10 + j) * 10 + k) * 10 + l) % 10 = l := by omega
  simp only [List.map_cons, List.map_nil, first, second, third, fourth]

/-- The texts that are read are those of at most four digits, each as its decimal value. -/
theorem decode_text_eq_ok_iff {field text : String} {number : Number} :
    decode field (.text text) = .ok number ↔
      isDigits 4 text = true ∧ .ofNat (Digits.decimal text.toList) = number := by
  have shown : (Value.text text).sentence = .ok text := rfl
  cases digits : isDigits 4 text <;>
    simp [decode, shown, digits, Bind.bind, Except.bind, Pure.pure, Except.pure]

/-- A written discriminator, read and written again, is filled up to four digits. -/
theorem fourDigits_decimal {text : String} (digits : isDigits 4 text = true) :
    fourDigits (Digits.decimal text.toList) = padded text ∧ Digits.decimal text.toList ≤ 9999 := by
  obtain ⟨nonempty, short, all⟩ := isDigits_iff.mp digits
  rw [← Digits.decimal_zeros (4 - text.length)]
  have size : (List.replicate (4 - text.length) '0' ++ text.toList).length = 4 := by
    rw [List.length_append, List.length_replicate, ← String.length_toList]
    omega
  have filled : ∀ c ∈ List.replicate (4 - text.length) '0' ++ text.toList, c.isDigit = true := by
    intro c member
    rcases List.mem_append.mp member with zero | own
    · obtain rfl := List.eq_of_mem_replicate zero
      decide
    · exact all c own
  unfold padded
  generalize List.replicate (4 - text.length) '0' ++ text.toList = cs at size filled
  match cs, size with
  | [a, b, c, d], _ =>
    have exact := four_digits_of_decimal filled
    exact ⟨String.toList_inj.mp (by rw [exact.1, String.toList_ofList]), exact.2⟩

/-! ### Exactness -/

/-- One to four decimal digits and nothing else. -/
def Numeral (text : String) : Prop :=
  1 ≤ text.length ∧ text.length ≤ 4 ∧ ∀ c ∈ text.toList, c ∈ "0123456789".toList

section
variable {field text : String}

theorem mem_decimals_iff {c : Char} : c ∈ "0123456789".toList ↔ c.isDigit = true := by
  constructor
  · have each : "0123456789".toList.all Char.isDigit = true := by decide
    exact List.all_eq_true.mp each c
  · intro digit
    obtain ⟨d, small, _, rfl⟩ := digit_of_value digit
    revert d
    decide

theorem numeral_iff : Numeral text ↔ isDigits 4 text = true := by
  simp only [Numeral, isDigits_iff, mem_decimals_iff, ← List.length_pos_iff, String.length_toList]
  rfl

theorem decode_of_numeral (numeral : Numeral text) :
    decode field (.text text) = .ok (.ofNat (Digits.decimal text.toList)) :=
  decode_text_eq_ok_iff.mpr ⟨numeral_iff.mp numeral, rfl⟩

theorem decode_of_not_numeral (other : ¬ Numeral text) : ∃ message,
    decode field (.text text) =
      .error (.decode (.structural field "string.pattern.base" message (.text text))) := by
  rw [numeral_iff] at other
  exact ⟨_, if_neg other⟩

theorem encode_ofNat {n : Nat} (small : n ≤ 9999) :
    encode field (.number (.ofNat n)) = .ok (fourDigits n) := by
  have safe : n ≤ Number.safeLimit := le_trans small (by decide)
  have counted : (Value.number (.ofNat n)).number?.bind Number.count? = some n :=
    Number.count?_ofNat safe
  rw [encode, counted, Option.filter_some, if_pos (by simpa using small)]
  rfl

theorem encode_of_other {d : Number} (other : ∀ n ≤ 9999, d ≠ .ofNat n) :
    encode field (.number d) =
      .error (.encode ⟨field, "Discriminator " ++ d.text ++ " is outside 0-9999"⟩) := by
  have none : ((Value.number d).number?.bind Number.count?).filter (· ≤ 9999) = none := by
    rw [Option.filter_eq_none_iff]
    intro n counted
    rw [decide_eq_true_eq]
    intro small
    exact other n small (Number.count?_eq_some_iff.mp counted).1
  rw [encode, none]
  rfl

end

/-- Discriminators are read and written exactly. One to four digits, and no other texts, are read as
the number that they denote, which is written as the same digits with zeros in front. The whole
numbers from 0 to 9999, and no others, are written with four digits, which are read as the number
again, so that different numbers differ in writing. -/
theorem numerals_exact (field place : String) :
    (∀ text, Numeral text → ∃ n ≤ 9999, n = Nat.ofDigitChars 10 text.toList 0 ∧
      decode field (.text text) = .ok (.ofNat n) ∧
      encode place (.number (.ofNat n)) = .ok (padded text)) ∧
    (∀ text, ¬ Numeral text → ∃ message, decode field (.text text) =
      .error (.decode (.structural field "string.pattern.base" message (.text text)))) ∧
    (∀ n ≤ 9999, ∃ text, encode place (.number (.ofNat n)) = .ok text ∧ text.length = 4 ∧
      Numeral text ∧ decode field (.text text) = .ok (.ofNat n)) ∧
    (∀ d : Number, (∀ n ≤ 9999, d ≠ .ofNat n) →
      ∃ message, encode place (.number d) = .error (.encode ⟨place, message⟩)) ∧
    ∀ (a b : Number) (text : String), encode place (.number a) = .ok text →
      encode place (.number b) = .ok text → a = b := by
  have reread (n : Nat) (small : n ≤ 9999) :
      decode field (.text (fourDigits n)) = .ok (.ofNat n) :=
    decode_text_eq_ok_iff.mpr ⟨isDigits_fourDigits n, by rw [decimal_fourDigits small]⟩
  have written (d : Number) (text : String) (given : encode place (.number d) = .ok text) :
      decode field (.text text) = .ok d := by
    by_cases other : ∀ n ≤ 9999, d ≠ .ofNat n
    · rw [encode_of_other other] at given
      contradiction
    · push Not at other
      obtain ⟨n, small, rfl⟩ := other
      obtain rfl := Except.ok.inj ((encode_ofNat small).symm.trans given)
      exact reread n small
  refine ⟨?_, ?_, ?_, ?_, ?_⟩
  · intro text numeral
    have digits := numeral_iff.mp numeral
    obtain ⟨same, small⟩ := fourDigits_decimal digits
    refine ⟨_, small, ?_, decode_of_numeral numeral, ?_⟩
    · exact Digits.decimal_eq_ofDigitChars (isDigits_iff.mp digits).2.2
    · rw [encode_ofNat small, same]
  · intro text other
    exact decode_of_not_numeral other
  · intro n small
    refine ⟨_, encode_ofNat small, ?_, numeral_iff.mpr (isDigits_fourDigits n), reread n small⟩
    rw [← String.length_toList, toList_fourDigits]
    rfl
  · intro d other
    exact ⟨_, encode_of_other other⟩
  · intro a b text first second
    exact Except.ok.inj ((written a text first).symm.trans (written b text second))

/-- Two digits, digits before a line break, a number that is not whole and one that is written in two
ways. -/
theorem numerals_exact_short :
    Numeral "42" ∧ decode "discriminator" (.text "42") = .ok (.ofNat 42) ∧
      encode "user" (.number (.ofNat 42)) = .ok "0042" ∧
    ¬ Numeral "1234\n" ∧
      (∃ message, decode "discriminator" (.text "1234\n") = .error (.decode
        (.structural "discriminator" "string.pattern.base" message (.text "1234\n")))) ∧
    (∀ n ≤ 9999, Number.finite (1 / 2) ≠ .ofNat n) ∧
      (∃ message, encode "user" (.number (.finite (1 / 2))) =
        .error (.encode ⟨"user", message⟩)) ∧
    encode "user" (.number 42) = .ok "0042" ∧ (42 : Number) = .ofNat 42 := by
  obtain ⟨read, refused, _, outside, distinct⟩ := numerals_exact "discriminator" "user"
  have numeral : Numeral "42" := numeral_iff.mpr rfl
  have broken : ¬ Numeral "1234\n" := mt numeral_iff.mp (by decide)
  have half : ∀ n ≤ 9999, Number.finite (1 / 2) ≠ .ofNat n := by
    intro n _ same
    have whole := congrArg Number.integer? same
    have none : (Number.finite (1 / 2)).integer? = none := by decide +kernel
    rw [Number.integer?_ofNat, none] at whole
    contradiction
  obtain ⟨n, _, rfl, first, second⟩ := read "42" numeral
  have written : encode "user" (.number (.ofNat 42)) = .ok "0042" := second
  exact ⟨numeral, first, written, broken, refused _ broken, half, outside _ half, written,
    distinct 42 (.ofNat 42) "0042" written written⟩

end ChatGateway.Discriminator
