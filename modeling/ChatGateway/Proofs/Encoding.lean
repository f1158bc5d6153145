import ChatGateway.Uri
import ChatGateway.Url.Reader
import Mathlib.Data.List.Basic

/-! The characters of links. Percent encoding leaves those that a part may keep; of these, the stray
ones are those that no URI has in the same place. -/
namespace ChatGateway.Url

variable {c : Char} {encodes : Char → Bool} {text : List Char}

/-- What holds of all characters that some part keeps can be read off a table. -/
theorem of_encodesControl {p : Char → Prop}
    (table : ∀ n < 0x7F, encodesControl (Char.ofNat n) = false → p (Char.ofNat n))
    (kept : encodesControl c = false) : p c := by
  have small : c.toNat < 0x7F := by
    simp only [encodesControl, Bool.or_eq_false_iff, decide_eq_false_iff_not] at kept
    omega
  have listed := table c.toNat small
  rw [Char.ofNat_toNat] at listed
  exact listed kept

theorem encodesControl_of_isAlphanum (word : c.isAlphanum = true) : encodesControl c = false := by
  have bounds : 48 ≤ c.toNat ∧ c.toNat ≤ 122 := by
    rcases Bool.or_eq_true_iff.mp word with letter | digit
    · rcases Bool.or_eq_true_iff.mp letter with upper | lower
      · have upper : 65 ≤ c.toNat ∧ c.toNat ≤ 90 := of_decide_eq_true upper
        omega
      · have lower : 97 ≤ c.toNat ∧ c.toNat ≤ 122 :=
          ⟨of_decide_eq_true (Bool.and_eq_true_iff.mp lower).1,
            of_decide_eq_true (Bool.and_eq_true_iff.mp lower).2⟩
        omega
    · have digit : 48 ≤ c.toNat ∧ c.toNat ≤ 57 :=
        ⟨of_decide_eq_true (Bool.and_eq_true_iff.mp digit).1,
          of_decide_eq_true (Bool.and_eq_true_iff.mp digit).2⟩
      omega
  simp only [encodesControl, Bool.or_eq_false_iff, decide_eq_false_iff_not]
  omega

theorem encodesControl_of_fragment (kept : encodesFragment c = false) :
    encodesControl c = false :=
  (Bool.or_eq_false_iff.mp kept).1

theorem encodesControl_of_query (kept : encodesQuery c = false) : encodesControl c = false :=
  (Bool.or_eq_false_iff.mp kept).1

theorem encodesQuery_of_special (kept : encodesSpecialQuery c = false) : encodesQuery c = false :=
  (Bool.or_eq_false_iff.mp kept).1

theorem encodesQuery_of_path (kept : encodesPath c = false) : encodesQuery c = false :=
  (Bool.or_eq_false_iff.mp kept).1

theorem encodesPath_of_user (kept : encodesUser c = false) : encodesPath c = false :=
  (Bool.or_eq_false_iff.mp kept).1

/-! ### What an encoded text holds -/

/-- The characters that encoded ones are written with. -/
def escapes : List Char := "%0123456789ABCDEF".toList

theorem mem_escapes_of_mem_encodeChar {d : Char} (member : d ∈ encodeChar c) : d ∈ escapes := by
  obtain ⟨byte, _, inside⟩ := List.mem_flatMap.mp member
  have digits : ∀ n < 16,
      (if n < 10 then Char.ofNat (48 + n) else Char.ofNat (55 + n)) ∈ escapes := by decide
  have high : byte.toNat / 16 < 16 := by
    have := byte.toNat_lt
    omega
  simp only [hexByte, List.mem_cons, List.not_mem_nil, or_false] at inside
  rcases inside with rfl | rfl | rfl
  · decide
  · exact digits _ high
  · exact digits _ (Nat.mod_lt _ (by decide))

/-- Encoding yields escapes and characters that stay. -/
theorem forall_mem_percentEncode {p : Char → Prop} (escaped : escapes.Forall p)
    (kept : ∀ c ∈ text, encodes c = false → p c) : ∀ c ∈ percentEncode encodes text, p c := by
  intro c member
  obtain ⟨d, held, inside⟩ := List.mem_flatMap.mp member
  split at inside
  · exact List.forall_iff_forall_mem.mp escaped c (mem_escapes_of_mem_encodeChar inside)
  · rename_i unencoded
    obtain rfl := List.mem_singleton.mp inside
    exact kept c held (Bool.eq_false_iff.mpr unencoded)

/-- An encoded text starts with the character that the text starts with or with an escape. -/
theorem percentEncode_cons (encodes : Char → Bool) (c : Char) (text : List Char) :
    ∃ d rest, percentEncode encodes (c :: text) = d :: rest ∧ (d = c ∨ d = '%') := by
  rw [percentEncode, List.flatMap_cons]
  split
  · obtain ⟨byte, bytes, encoded⟩ := List.exists_cons_of_ne_nil (@String.utf8EncodeChar_ne_nil c)
    rw [encodeChar, encoded]
    exact ⟨_, _, rfl, .inr rfl⟩
  · exact ⟨_, _, rfl, .inl rfl⟩

/-! ### Stray characters -/

def strayInHost : List Char := "\"`\x7b\x7d".toList

def strayInSegment : List Char := "[\\]^|".toList

/-- Stray characters of a path that is not divided. -/
def strayInRootless : List Char := " \"<>[\\]^`\x7b|\x7d".toList

def strayInQuery : List Char := "[\\]^`\x7b|\x7d".toList

def strayInFragment : List Char := "#[\\]^\x7b|\x7d".toList

theorem isName_of_user (kept : encodesUser c = false) : Uri.isName c = true := by
  have control := encodesControl_of_query (encodesQuery_of_path (encodesPath_of_user kept))
  refine @of_encodesControl c (fun c => encodesUser c = false → Uri.isName c = true) ?_ control kept
  decide +kernel

theorem isName_iff_of_host (control : encodesControl c = false)
    (allowed : isForbiddenInHost c = false) : Uri.isName c = true ↔ c ∉ strayInHost := by
  refine @of_encodesControl c (fun c => isForbiddenInHost c = false →
    (Uri.isName c = true ↔ c ∉ strayInHost)) ?_ control allowed
  decide +kernel

theorem isPath_iff_of_segment (kept : encodesPath c = false) :
    Uri.isPath c = true ↔ c ∉ strayInSegment := by
  have control := encodesControl_of_query (encodesQuery_of_path kept)
  refine @of_encodesControl c (fun c => encodesPath c = false →
    (Uri.isPath c = true ↔ c ∉ strayInSegment)) ?_ control kept
  decide +kernel

theorem isPath_iff_of_rootless (control : encodesControl c = false) (before : c ≠ '?' ∧ c ≠ '#') :
    Uri.isPath c = true ↔ c ∉ strayInRootless := by
  refine @of_encodesControl c (fun c => c ≠ '?' ∧ c ≠ '#' →
    (Uri.isPath c = true ↔ c ∉ strayInRootless)) ?_ control before
  decide +kernel

theorem isTail_iff_of_query (kept : encodesQuery c = false) :
    Uri.isTail c = true ↔ c ∉ strayInQuery := by
  refine @of_encodesControl c (fun c => encodesQuery c = false →
    (Uri.isTail c = true ↔ c ∉ strayInQuery)) ?_ (encodesControl_of_query kept) kept
  decide +kernel

theorem isTail_iff_of_fragment (kept : encodesFragment c = false) :
    Uri.isTail c = true ↔ c ∉ strayInFragment := by
  refine @of_encodesControl c (fun c => encodesFragment c = false →
    (Uri.isTail c = true ↔ c ∉ strayInFragment)) ?_ (encodesControl_of_fragment kept) kept
  decide +kernel

end ChatGateway.Url
