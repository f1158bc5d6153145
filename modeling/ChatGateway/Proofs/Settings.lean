import ChatGateway.Proofs.Cut
import ChatGateway.Proofs.Number
import ChatGateway.Settings
import Mathlib.Data.Nat.Digits.Defs

/-! Which texts give a protocol version. Only the number at the front counts: what follows its digits
is never looked at, so that a text is refused exactly if it has no number at its front or one below
one. -/
namespace ChatGateway

namespace Number

/-- The integer with the given sign and magnitude. -/
def signed (negative : Bool) (magnitude : Nat) : Int :=
  if negative then -magnitude else magnitude

theorem nearestDecimal_of_safe (negative : Bool) {n : Nat} (safe : n ≤ safeLimit) :
    nearestDecimal negative n 0 = ofInt (signed negative n) := by
  have size : (Nat.toDigits 10 n).length ≤ 16 := by
    apply Nat.toDigits_length _ _ _ (by decide)
    unfold safeLimit at safe
    omega
  have whole : scaled 10 n 0 = n := by simp [scaled]
  have exact := @nearestInt_of_safe (signed negative n) (by cases negative <;> simpa [signed])
  simp only [nearestDecimal, whole]
  rw [if_neg (by omega : ¬ 400 < ((Nat.toDigits 10 n).length : Int) + 0),
    if_neg (by omega : ¬ ((Nat.toDigits 10 n).length : Int) + 0 < -400), ← exact, nearestInt]
  split
  · rename_i zero
    rw [zero]
    cases negative <;> rfl
  · cases negative <;> simp [signed]

theorem nearest_ne_nan (q : Rat) : nearest q ≠ .nan := by
  unfold nearest
  split <;> exact Number.noConfusion

theorem nearestDecimal_ne_nan (negative : Bool) (digits : Nat) (exponent : Int) :
    nearestDecimal negative digits exponent ≠ .nan := by
  simp only [nearestDecimal]
  split
  · exact Number.noConfusion
  · split
    · exact Number.noConfusion
    · split
      · exact Number.noConfusion
      · exact nearest_ne_nan _

end Number

namespace LeadingNumber

/-- A sign, which may be missing, and whether it negates. -/
inductive Sign : Bool → List Char → Prop
  | none : Sign false []
  | plus : Sign false ['+']
  | minus : Sign true ['-']

/-- A text with a number at its front: blanks, a sign, some digits and a rest that does not go on with
a digit. -/
structure Leads (text : String) (negative : Bool) (digits rest : List Char) : Prop where
  whole : ∃ blanks sign, text.toList = blanks ++ (sign ++ (digits ++ rest)) ∧
    (∀ c ∈ blanks, isBlank c = true) ∧ Sign negative sign
  nonempty : digits ≠ []
  digits : ∀ c ∈ digits, c.isDigit = true
  ends : ∀ c, rest.head? = some c → c.isDigit = false

section
variable {text : String} {negative : Bool} {sign digits rest unsigned : List Char} {c : Char}

theorem not_isBlank_of_isDigit (digit : c.isDigit = true) : isBlank c = false := by
  have bounds : 48 ≤ c.toNat ∧ c.toNat ≤ 57 := Char.isDigit_iff_toNat.mp digit
  simp [isBlank]
  omega

/-- The number of the digits that come first. -/
def front (negative : Bool) (unsigned : List Char) : Number :=
  match unsigned.takeWhile Char.isDigit with
  | [] => .nan
  | digits => .nearestDecimal negative (Digits.decimal digits) 0

theorem front_of_digits (taken : unsigned.takeWhile Char.isDigit = digits) (nonempty : digits ≠ []) :
    front negative unsigned = .nearestDecimal negative (Digits.decimal digits) 0 := by
  rw [front, taken]
  cases digits with
  | nil => contradiction
  | cons d ds => rfl

/-- The rest of a text after its sign. Without one it starts with no sign either. -/
structure Unsigned (negative : Bool) (sign unsigned : List Char) : Prop where
  signed : Sign negative sign
  alone : sign = [] → unsigned.head? ≠ some '-' ∧ unsigned.head? ≠ some '+'

theorem exists_unsigned (chars : List Char) :
    ∃ negative sign unsigned, chars = sign ++ unsigned ∧ Unsigned negative sign unsigned := by
  by_cases minus : chars.head? = some '-'
  · obtain ⟨rest, rfl⟩ := List.head?_eq_some_iff.mp minus
    exact ⟨true, ['-'], rest, rfl, .minus, fun none => by contradiction⟩
  · by_cases plus : chars.head? = some '+'
    · obtain ⟨rest, rfl⟩ := List.head?_eq_some_iff.mp plus
      exact ⟨false, ['+'], rest, rfl, .plus, fun none => by contradiction⟩
    · exact ⟨false, [], chars, rfl, .none, fun _ => ⟨minus, plus⟩⟩

theorem read_of_unsigned (trimmed : text.toList.dropWhile isBlank = sign ++ unsigned)
    (cut : Unsigned negative sign unsigned) : read text = front negative unsigned := by
  obtain ⟨signed, alone⟩ := cut
  rw [read, trimmed]
  cases signed with
  | plus => rfl
  | minus => rfl
  | none =>
    obtain ⟨minus, plus⟩ := alone rfl
    match unsigned, minus, plus with
    | [], _, _ => rfl
    | c :: rest, minus, plus =>
      rw [List.head?_cons, ne_eq, Option.some.injEq] at minus plus
      simp [minus, plus]
      rfl

theorem read_of_leads (leads : Leads text negative digits rest) :
    read text = .nearestDecimal negative (Digits.decimal digits) 0 := by
  obtain ⟨⟨blanks, sign, whole, blank, signed⟩, nonempty, inside, ends⟩ := leads
  have taken := (Cut.span_exact inside ends).1
  obtain ⟨d, ds, rfl⟩ := List.exists_cons_of_ne_nil nonempty
  have digit : d.isDigit = true := inside d List.mem_cons_self
  have trimmed : text.toList.dropWhile isBlank = sign ++ (d :: ds ++ rest) := by
    rw [whole, List.dropWhile_append_of_pos blank]
    cases signed with
    | none => simp [not_isBlank_of_isDigit digit]
    | plus => rfl
    | minus => rfl
  rw [read_of_unsigned trimmed ⟨signed, fun _ => ⟨?_, ?_⟩⟩, front_of_digits taken nonempty]
  · rintro same
    obtain rfl := Option.some.inj same
    contradiction
  · rintro same
    obtain rfl := Option.some.inj same
    contradiction

theorem exists_leads (number : read text ≠ .nan) :
    ∃ negative digits rest, Leads text negative digits rest := by
  obtain ⟨negative, sign, unsigned, trimmed, cut⟩ :=
    exists_unsigned (text.toList.dropWhile isBlank)
  rw [read_of_unsigned trimmed cut] at number
  refine ⟨negative, unsigned.takeWhile Char.isDigit, unsigned.dropWhile Char.isDigit,
    ⟨text.toList.takeWhile isBlank, sign, ?_, ?_, cut.signed⟩, ?_, ?_, ?_⟩
  · rw [List.takeWhile_append_dropWhile, ← trimmed, List.takeWhile_append_dropWhile]
  · intro c member
    exact List.all_eq_true.mp List.all_takeWhile c member
  · intro none
    rw [front, none] at number
    contradiction
  · intro c member
    exact List.all_eq_true.mp List.all_takeWhile c member
  · intro c first
    have stop := List.head?_dropWhile_not Char.isDigit unsigned
    rw [first] at stop
    simpa using stop

/-- A text reads as a number exactly if there is one at its front. -/
theorem leads_iff :
    (∃ negative digits rest, Leads text negative digits rest) ↔ read text ≠ .nan := by
  constructor
  · rintro ⟨negative, digits, rest, leads⟩
    rw [read_of_leads leads]
    exact Number.nearestDecimal_ne_nan _ _ _
  · exact exists_leads

end
end LeadingNumber

namespace Settings

theorem load_eq (env : Environment) :
    load env = (loadVersion env).map fun version => ⟨version, .load env⟩ := by
  rw [load]
  cases loadVersion env <;> rfl

/-- The version of a text that reads as a whole number. -/
theorem loadVersion_of_read {env : Environment} {raw : String} {n : Int}
    (given : env.get? "GATEWAY_VERSION" = some raw)
    (whole : LeadingNumber.read raw = .ofInt n) :
    loadVersion env = if n < 1 then .error (.invalidVersion raw) else .ok (.ofInt n) := by
  simp only [loadVersion, given, whole, Number.integer?_ofInt]

theorem loadVersion_of_nan {env : Environment} {raw : String}
    (given : env.get? "GATEWAY_VERSION" = some raw) (nan : LeadingNumber.read raw = .nan) :
    loadVersion env = .error (.invalidVersion raw) := by
  simp only [loadVersion, given, nan, Number.integer?]

/-- The version that is loaded, for every text that is given for it. Where a number leads the text,
it is the version unless it is below one; the rest of the text does not matter. All other texts are
refused. -/
theorem load_leading (env : Environment) (raw : String)
    (given : env.lookup "GATEWAY_VERSION" = some raw) (nonempty : raw ≠ "") :
    (∀ negative digits rest, LeadingNumber.Leads raw negative digits rest →
      Digits.decimal digits < 2 ^ 53 →
      load env = if negative = false ∧ 1 ≤ Digits.decimal digits
        then .ok ⟨.ofNat (Digits.decimal digits), .load env⟩
        else .error (.invalidVersion raw)) ∧
    ((¬ ∃ negative digits rest, LeadingNumber.Leads raw negative digits rest) →
      load env = .error (.invalidVersion raw)) := by
  have held : env.get? "GATEWAY_VERSION" = some raw := by
    rw [Environment.get?, given, Option.filter_some, if_pos (by simpa using nonempty)]
  rw [load_eq]
  constructor
  · intro negative digits rest leads small
    have safe : Digits.decimal digits ≤ Number.safeLimit := by
      unfold Number.safeLimit
      omega
    have read := LeadingNumber.read_of_leads leads
    rw [Number.nearestDecimal_of_safe negative safe] at read
    rw [loadVersion_of_read held read]
    cases negative with
    | true =>
      rw [if_pos (by simp only [Number.signed, if_true]; omega), if_neg (by simp)]
      rfl
    | false =>
      simp only [Number.signed, Bool.false_eq_true, if_false, true_and]
      by_cases large : 1 ≤ Digits.decimal digits
      · rw [if_neg (by omega), if_pos large]
        rfl
      · rw [if_pos (by omega), if_neg large]
        rfl
  · intro none
    have nan : LeadingNumber.read raw = .nan := by
      rw [LeadingNumber.leads_iff, not_not] at none
      exact none
    rw [loadVersion_of_nan held nan]
    rfl

/-- Blanks, a sign, a number and letters, and a text without a number. -/
theorem load_leading_letters :
    let env : Environment := [("GATEWAY_VERSION", " +10abc")]
    let other : Environment := [("LOG_DIR", "9"), ("GATEWAY_VERSION", "ten9")]
    LeadingNumber.Leads " +10abc" false ['1', '0'] ['a', 'b', 'c'] ∧
      load env = .ok ⟨10, .load env⟩ ∧ load other = .error (.invalidVersion "ten9") := by
  intro env other
  have leads : LeadingNumber.Leads " +10abc" false ['1', '0'] ['a', 'b', 'c'] := by
    constructor
    · exact ⟨[' '], ['+'], by decide, List.forall_mem_singleton.mpr rfl, .plus⟩
    · exact List.cons_ne_nil _ _
    · exact List.forall_mem_cons.mpr ⟨rfl, List.forall_mem_singleton.mpr rfl⟩
    · rintro c ⟨⟩
      rfl
  have none : ¬ ∃ negative digits rest, LeadingNumber.Leads "ten9" negative digits rest := by
    rw [LeadingNumber.leads_iff, not_not]
    decide
  exact ⟨leads, (load_leading env " +10abc" rfl (by decide)).1 _ _ _ leads (by decide),
    (load_leading other "ten9" rfl (by decide)).2 none⟩

end Settings
end ChatGateway
