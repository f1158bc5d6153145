import ChatGateway.Proofs.ReadyTrace
import ChatGateway.Proofs.Writing

/-! Codes of enumerations with any list of variants. A listed code stands for itself in both
directions. All others stand for the catch-all, which has no code, so that none is written as
another. -/
namespace ChatGateway.Enumeration

/-- The enumerations of the gateway's records. -/
def shipped : List Enumeration := [activityKinds, channelKinds]

section
variable {e : Enumeration} {field : String} {context : Option Context} {c : Number} {v : Value}

/-- How a number is refused that no variant has. -/
def refusal (e : Enumeration) (field : String) (c : Number) : EncodeError :=
  ⟨field, e.name ++ " value " ++ c.text ++ " has no wire code"⟩

theorem encode_of_not_mem (unlisted : c ∉ e.known) :
    e.encode field (.number c) = .error (.encode (e.refusal field c)) := by
  have unknown : ¬ e.isKnown (.number c) = true := mt isKnown_number_iff.mp unlisted
  rw [encode, if_neg unknown]
  rfl

theorem encode_eq_ok_iff {wire : Value} :
    e.encode field v = .ok wire ↔ e.isKnown v = true ∧ wire = v := by
  constructor
  · intro written
    cases known : e.isKnown v with
    | true =>
      rw [encode_of_isKnown known] at written
      exact ⟨rfl, (Except.ok.inj written).symm⟩
    | false =>
      rw [encode, known] at written
      cases shown : v.sentence <;> simp [shown, Bind.bind, Except.bind] at written
  · rintro ⟨known, rfl⟩
    exact encode_of_isKnown known

theorem code_unknownEnumValue (name : String) (code : Value) (context : Option Context) :
    (Context.valueOf (Entry.unknownEnumValue name code context).attributes "metadata").get "code" =
      code := by
  rw [Entry.unknownEnumValue, Context.valueOf_extend]
  rfl

end

/-- What becomes of codes. A listed one stands for itself without an entry and is written again. Any
other is logged once and stands for the catch-all, which is refused. -/
structure Exact (e : Enumeration) (field : String) (context : Option Context) : Prop where
  listed : ∀ c ∈ e.known, e.decode (.number c) context = .result c ∧
    e.encode field (.number c) = .ok (.number c)
  unlisted : ∀ c, c ∉ e.known → ∃ entry refused,
    e.decode (.number c) context = ⟨[entry], .ok e.unknown⟩ ∧ entry.severity = .debug ∧
    (Context.valueOf entry.attributes "metadata").get "code" = .number c ∧
    e.encode field (.number e.unknown) = .error (.encode refused) ∧ refused.field = field

theorem exact_of_fresh {e : Enumeration} (fresh : e.unknown ∉ e.known) (field : String)
    (context : Option Context) : e.Exact field context where
  listed _ member := ⟨decode_of_mem member, encode_of_isKnown (isKnown_number_iff.mpr member)⟩
  unlisted _ unlisted := ⟨_, _, decode_of_not_mem unlisted, rfl, code_unknownEnumValue _ _ _,
    encode_of_not_mem fresh, rfl⟩

/-- Codes and variants, for any enumeration whose catch-all is none of its variants, as those of the
gateway. Reading a number always succeeds, with the same number exactly if it is listed. Exactly the
variants are written, and read back. A missing code stands for the first variant. -/
theorem codes_exact :
    (∀ e ∈ shipped, e.unknown ∉ e.known) ∧
    ∀ (e : Enumeration) (field : String) (context : Option Context), e.unknown ∉ e.known →
      e.Exact field context ∧
      (∀ v : Value, (∃ wire, e.encode field v = .ok wire) ↔ e.isKnown v = true) ∧
      (∀ v wire : Value, e.encode field v = .ok wire →
        ∃ c ∈ e.known, v = .number c ∧ e.decode wire context = .result c) ∧
      (∀ c : Number, e.decodeOptional (.number c) context = e.decode (.number c) context) ∧
      ∀ missing : Value, missing.isVacant = true →
        e.decodeOptional missing context = .result e.first := by
  refine ⟨by decide, fun e field context fresh => ⟨exact_of_fresh fresh field context, ?_, ?_, ?_, ?_⟩⟩
  · intro v
    constructor
    · rintro ⟨wire, written⟩
      exact (encode_eq_ok_iff.mp written).1
    · intro known
      exact ⟨v, encode_of_isKnown known⟩
  · intro v wire written
    obtain ⟨known, rfl⟩ := encode_eq_ok_iff.mp written
    obtain ⟨c, listed, rfl⟩ := exists_of_isKnown known
    exact ⟨c, listed, rfl, decode_of_mem listed⟩
  · intro c
    rfl
  · intro missing vacant
    rw [decodeOptional, if_pos vacant]

/-- An enumeration that lists what is no number, twice, and an infinite code. -/
theorem codes_exact_odd :
    let e : Enumeration := ⟨"Odd", .nan, [2, .nan, .infinite true], .ofInt (-1)⟩
    e.Exact "kind" none ∧ e.decode (.number .nan) none = .result .nan ∧
      (∃ c ∈ e.known, Value.number (.infinite true) = .number c ∧
        e.decode (.number (.infinite true)) none = .result c) ∧
      e.decodeOptional .null none = .result .nan := by
  intro e
  obtain ⟨codes, _, reread, _, missing⟩ := codes_exact.2 e "kind" none (by decide)
  refine ⟨codes, (codes.listed .nan (by decide)).1, ?_, missing .null rfl⟩
  exact reread (.number (.infinite true)) (.number (.infinite true)) rfl

end ChatGateway.Enumeration
