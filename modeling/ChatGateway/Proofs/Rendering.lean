import ChatGateway.Proofs.Locality
import ChatGateway.Proofs.Numerals

/-! Places as texts. As long as the names of fields hold none of the marks that set the steps of a
place apart, a text tells one place at most. The names of all records are such names, so that two
problems of a payload are reported for one field only if they stand at one place. -/
namespace ChatGateway

/-- A name without the marks that set the steps of a place apart. -/
def IsPlainName (name : String) : Prop :=
  name ≠ "" ∧ ∀ c ∈ name.toList, c ∉ ".[]".toList

/-- The characters of the name are tried, not all characters. -/
instance (name : String) : Decidable (IsPlainName name) :=
  @instDecidableAnd _ _ inferInstance (List.decidableBAll _ _)

namespace Segment

/-- A field with a plain name or the position of an item. -/
def Plain : Segment → Prop
  | .key name => IsPlainName name
  | .index position => position.IsNatural

/-- The text of a step that others come before. -/
def trail : Segment → List Char
  | .key name => '.' :: name.toList
  | .index position => '[' :: (position.text.toList ++ [']'])

end Segment

namespace Path

/-- The text of the steps that others come before. -/
def trail (path : Path) : List Char :=
  path.flatMap Segment.trail

/-- What stands between two places that are joined: a dot before a field, nothing before a position
or where one of the two is empty. -/
def joint : Path → Path → String
  | _ :: _, .key _ :: _ => "."
  | _, _ => ""

/-- All steps are plain. -/
def Plain (path : Path) : Prop :=
  ∀ segment ∈ path, segment.Plain

section
variable {p q rest more : Path} {s t : Segment} {text name : String}

theorem toList_step (started : text ≠ "") (s : Segment) :
    (step text s).toList = text.toList ++ s.trail := by
  have some : text.isEmpty = false := by simpa using started
  cases s with
  | key name => simp [step, some, Segment.trail]
  | index position => simp [step, Segment.trail]

theorem toList_foldl_step (started : text ≠ "") (path : Path) :
    (path.foldl step text).toList = text.toList ++ trail path := by
  induction path generalizing text with
  | nil => simp [trail]
  | cons s rest ih =>
    rw [List.foldl_cons, ih (step_ne_empty started s), toList_step started, List.append_assoc]
    rfl

theorem step_start_ne_empty (plain : s.Plain) : step "" s ≠ "" := by
  cases s with
  | key name => exact plain.1
  | index position => simp [step]

theorem toList_render_cons (plain : s.Plain) (rest : Path) :
    (render (s :: rest)).toList = (step "" s).toList ++ trail rest :=
  toList_foldl_step (step_start_ne_empty plain) rest

theorem render_ne_empty (plain : s.Plain) (rest : Path) : render (s :: rest) ≠ "" :=
  foldl_step_ne_empty (step_start_ne_empty plain) rest

theorem eq_nil_of_render (plain : p.Plain) (empty : p.render = "") : p = [] := by
  cases p with
  | nil => rfl
  | cons s rest => exact absurd empty (render_ne_empty (List.forall_mem_cons.mp plain).1 rest)

/-- Steps after others are set off from them and are written like a place of their own. -/
theorem trail_eq (plain : q.Plain) (s : Segment) :
    trail q = (joint [s] q).toList ++ q.render.toList := by
  cases q with
  | nil => rfl
  | cons t rest =>
    rw [toList_render_cons (List.forall_mem_cons.mp plain).1]
    cases t <;> simp [joint, trail, Segment.trail, step]

theorem render_joined (plain : p.Plain) (other : q.Plain) :
    (p ++ q).render = p.render ++ joint p q ++ q.render := by
  cases p with
  | nil => simp [joint, render]
  | cons s rest =>
    have started := render_ne_empty (List.forall_mem_cons.mp plain).1 rest
    rw [← String.toList_inj, render, List.foldl_append]
    change (q.foldl step (render (s :: rest))).toList = _
    rw [toList_foldl_step started, trail_eq other s, String.toList_append, String.toList_append,
      List.append_assoc]
    rcases q with _ | ⟨_ | _, _⟩ <;> rfl

/-! ### Reading places -/

theorem head?_trail (path : Path) {c : Char} (first : (trail path).head? = some c) :
    c ∈ ".[".toList := by
  cases path with
  | nil => contradiction
  | cons s rest =>
    cases s with
    | key name =>
      obtain rfl : '.' = c := Option.some.inj first
      decide
    | index position =>
      obtain rfl : '[' = c := Option.some.inj first
      decide

theorem name_of_append {other : String} {tail after : Path} (plain : IsPlainName name)
    (others : IsPlainName other)
    (same : name.toList ++ trail tail = other.toList ++ trail after) :
    name = other ∧ trail tail = trail after := by
  have inside {name : String} (plain : IsPlainName name) :
      ∀ c ∈ name.toList, (!".[".toList.contains c) = true := by
    intro c member
    have free := plain.2 c member
    simp_all
  have ends (path : Path) : ∀ c, (trail path).head? = some c →
      (!".[".toList.contains c) = false := by
    intro c first
    have mark := head?_trail path first
    simp_all
  obtain ⟨names, rests⟩ :=
    Cut.append_inj_of_ends (inside plain) (ends tail) (inside others) (ends after) same
  exact ⟨String.toList_inj.mp names, rests⟩

theorem position_of_append {a b : Number} {tail after : List Char} (natural : a.IsNatural)
    (other : b.IsNatural) (same : a.text.toList ++ ']' :: tail = b.text.toList ++ ']' :: after) :
    a = b ∧ tail = after := by
  -- A position ends at the first closing bracket, whatever notation its number is written in.
  have inside (n : Number) : ∀ c ∈ n.text.toList, (c != ']') = true := by
    intro c member
    rw [bne_iff_ne]
    rintro rfl
    exact n.not_mem_text member
  have ends (rest : List Char) : ∀ c, (']' :: rest).head? = some c → (c != ']') = false := by
    intro c first
    obtain rfl := Option.some.inj first
    rfl
  obtain ⟨texts, rests⟩ :=
    Cut.append_inj_of_ends (inside a) (ends tail) (inside b) (ends after) same
  exact ⟨Number.eq_of_text natural other (String.toList_inj.mp texts), (List.cons.inj rests).2⟩

/-- The first step can be told from the text, and so can what is left of it. -/
theorem eq_of_trail_cons (plain : s.Plain) (other : t.Plain)
    (same : trail (s :: rest) = trail (t :: more)) : s = t ∧ trail rest = trail more := by
  cases s with
  | key name =>
    cases t with
    | key second =>
      obtain ⟨rfl, rests⟩ := name_of_append plain other (List.cons.inj same).2
      exact ⟨rfl, rests⟩
    | index position => cases (List.cons.inj same).1
  | index position =>
    cases t with
    | key name => cases (List.cons.inj same).1
    | index second =>
      have texts : position.text.toList ++ ']' :: trail rest =
          second.text.toList ++ ']' :: trail more := by
        simpa [trail, Segment.trail] using same
      obtain ⟨rfl, rests⟩ := position_of_append plain other texts
      exact ⟨rfl, rests⟩

/-- The steps after others can be told from their text. -/
theorem eq_of_trail (plain : p.Plain) (other : q.Plain) (same : trail p = trail q) : p = q := by
  induction p generalizing q with
  | nil =>
    cases q with
    | nil => rfl
    | cons t more => cases t <;> contradiction
  | cons s rest ih =>
    cases q with
    | nil => cases s <;> contradiction
    | cons t more =>
      obtain ⟨first, later⟩ := List.forall_mem_cons.mp plain
      obtain ⟨second, others⟩ := List.forall_mem_cons.mp other
      obtain ⟨rfl, rests⟩ := eq_of_trail_cons first second same
      rw [ih later others rests]

/-- Only a place that starts with a position starts with a bracket. -/
theorem head?_render (plain : s.Plain) (rest : Path) :
    (render (s :: rest)).toList.head? = some '[' ↔ ∃ position, s = .index position := by
  rw [toList_render_cons plain]
  cases s with
  | key name =>
    obtain ⟨c, cs, shape⟩ := List.exists_cons_of_ne_nil (mt String.toList_eq_nil_iff.mp plain.1)
    have free := plain.2 c (shape ▸ List.mem_cons_self)
    simp_all [step]
  | index position => simp [step]

/-- A place can be told from its text. -/
theorem eq_of_render (plain : p.Plain) (other : q.Plain) (same : p.render = q.render) : p = q := by
  cases p with
  | nil => exact (eq_nil_of_render other same.symm).symm
  | cons s rest =>
    cases q with
    | nil => exact eq_nil_of_render plain same
    | cons t more =>
      have kinds := head?_render (List.forall_mem_cons.mp plain).1 rest
      rw [same, head?_render (List.forall_mem_cons.mp other).1 more] at kinds
      -- Places of one kind differ from their text after other steps by the same mark.
      apply eq_of_trail plain other
      rw [trail_eq plain s, trail_eq other s, same]
      congr 2
      cases s <;> cases t <;> simp_all [joint]

end
end Path
namespace Schema

mutual

/-- The names of the fields of a shape and of its parts. -/
def names : Schema → List String
  | .record fields => fieldNames fields
  | .list item => item.names
  | .either first second => first.names ++ second.names
  | _ => []

def fieldNames : List (String × Occurrence × Schema) → List String
  | [] => []
  | (name, _, shape) :: rest => name :: (shape.names ++ fieldNames rest)

end

/-- A field with one of the names, or the position of an item. -/
def StepOf (names : List String) : Segment → Prop
  | .key name => name ∈ names
  | .index position => ∃ n : Nat, position = .ofNat n

section
variable {fields : List (String × Occurrence × Schema)} {shape : Schema} {occurrence : Occurrence}
  {nullable : Bool} {v whole : Value} {finding : Finding} {path : Path}

theorem mem_fieldNames {field : String × Occurrence × Schema} (member : field ∈ fields) :
    field.1 ∈ fieldNames fields ∧ field.2.2.names ⊆ fieldNames fields := by
  induction fields with
  | nil => contradiction
  | cons head rest ih =>
    obtain ⟨name, occurrence, shape⟩ := head
    rw [fieldNames]
    rcases List.mem_cons.mp member with rfl | later
    · exact ⟨List.mem_cons_self, fun _ own => List.mem_cons_of_mem _ (List.mem_append_left _ own)⟩
    · obtain ⟨first, others⟩ := ih later
      exact ⟨List.mem_cons_of_mem _ (List.mem_append_right _ first),
        fun _ own => List.mem_cons_of_mem _ (List.mem_append_right _ (others own))⟩

theorem path_of_mem_placed {violations : List Violation}
    (member : finding ∈ placed path v violations) : finding.path = path := by
  obtain ⟨violation, _, rfl⟩ := List.mem_map.mp member
  rfl

theorem path_of_mem_pair {lacking position : Nat} {items : List Value}
    (member : finding ∈ pairFindings [] whole lacking position items) :
    finding.path = [] ∨ ∃ n, finding.path = [.index (.ofNat n)] := by
  cases pairFault_of_mem member with
  | tooFew => exact .inl rfl
  | tooMany => exact .inl rfl
  | hole position => exact .inr ⟨position, rfl⟩
  | item position => exact .inr ⟨position, rfl⟩

theorem path_of_mem_itemProblems (member : finding ∈ shape.itemProblems v) :
    finding.path = [] ∨ finding ∈ shape.problems false [] v := by
  cases v with
  | absent => exact .inl (List.mem_singleton.mp member ▸ rfl)
  | _ => exact .inr member

/-- What is wrong with a value stands at fields of its shape and at positions. -/
theorem step_of_mem_problems (member : finding ∈ shape.problems nullable [] v) :
    ∀ segment ∈ finding.path, StepOf shape.names segment := by
  have whole {names : List String} {finding : Finding} (own : finding.path = []) :
      ∀ segment ∈ finding.path, StepOf names segment := own ▸ List.forall_mem_nil _
  induction shape generalizing nullable v finding with
  | text form => exact whole (path_of_mem_placed member)
  | number => exact whole (path_of_mem_placed member)
  | count => exact whole (path_of_mem_placed member)
  | boolean =>
    cases v with
    | bool b => contradiction
    | _ => exact whole (List.mem_singleton.mp member ▸ rfl)
  | pair =>
    cases v with
    | list items =>
      rcases path_of_mem_pair member with own | ⟨n, own⟩
      · exact whole own
      · exact own ▸ List.forall_mem_singleton.mpr ⟨n, rfl⟩
    | _ => exact whole (List.mem_singleton.mp member ▸ rfl)
  | record fields ofFields =>
    by_cases record : v.isRecord = true
    · rw [problems_record record] at member
      obtain ⟨_, listed, inside, found, rfl⟩ := mem_sections.mp member
      obtain ⟨field, own, rfl⟩ := List.mem_map.mp listed
      obtain ⟨named, deeper⟩ := mem_fieldNames own
      refine List.forall_mem_cons.mpr ⟨named, ?_⟩
      rcases path_of_mem_findings found with here | ⟨_, problem⟩
      · exact whole here
      · intro segment step
        have known := ofFields field own problem segment step
        cases segment with
        | key name => exact deeper known
        | index position => exact known
    · rw [problems, if_neg record] at member
      exact whole (List.mem_singleton.mp member ▸ rfl)
  | list item ofItem =>
    cases v with
    | list items =>
      rw [problems_list] at member
      obtain ⟨_, listed, inside, found, rfl⟩ := mem_sections.mp member
      obtain ⟨entry, _, rfl⟩ := List.mem_map.mp listed
      refine List.forall_mem_cons.mpr ⟨⟨entry.2, rfl⟩, ?_⟩
      rcases path_of_mem_itemProblems found with here | problem
      · exact whole here
      · exact ofItem problem
    | _ => exact whole (List.mem_singleton.mp member ▸ rfl)
  | either first second =>
    rw [problems] at member
    split at member
    · contradiction
    · exact whole (List.mem_singleton.mp member ▸ rfl)

/-- Only a payload that is no record has a problem as a whole. -/
theorem path_eq_nil_iff (member : finding ∈ (Schema.record fields).check v) :
    finding.path = [] ↔ v.isRecord = false := by
  rw [check_eq_findings] at member
  by_cases record : v.isRecord = true
  · rw [findings_record record] at member
    obtain ⟨_, _, inside, _, rfl⟩ := mem_sections.mp member
    simp [Finding.under, record]
  · simp [path_of_not_record record member, record]

end
end Schema

namespace RecordType

variable {r : RecordType} {payload : Value} {finding other : Finding}

theorem isPlainName_of_mem_names (r : RecordType) : ∀ name ∈ r.schema.names, IsPlainName name := by
  cases r <;> decide +kernel

theorem step_of_mem_check (member : finding ∈ r.schema.check payload) :
    ∀ segment ∈ finding.path, (∃ name, segment = .key name ∧ IsPlainName name) ∨
      ∃ n : Nat, segment = .index (.ofNat n) := by
  intro segment step
  rw [Schema.check_eq_findings] at member
  rcases Schema.path_of_mem_findings member with whole | ⟨_, problem⟩
  · rw [whole] at step
    contradiction
  · have known := Schema.step_of_mem_problems problem segment step
    cases segment with
    | key name => exact .inl ⟨name, rfl, r.isPlainName_of_mem_names name known⟩
    | index position =>
      obtain ⟨n, rfl⟩ := known
      exact .inr ⟨n, rfl⟩

theorem plain_of_mem_check (member : finding ∈ r.schema.check payload)
    (safe : ∀ n : Nat, .index (.ofNat n) ∈ finding.path → n ≤ Number.safeLimit) :
    finding.path.Plain := by
  intro segment step
  rcases step_of_mem_check member segment step with ⟨name, rfl, plain⟩ | ⟨n, rfl⟩
  · exact plain
  · exact Number.isNatural_of_safe (safe n step)

/-- The field of a problem is its place, unless the payload as a whole is wrong. -/
theorem field_report (plain : finding.path.Plain) (root : String) : (finding.report root).field =
    if finding.path = [] then root else finding.path.render := by
  have same : finding.path.render.isEmpty = true ↔ finding.path = [] := by
    rw [String.isEmpty_iff]
    exact ⟨Path.eq_nil_of_render plain, fun whole => whole ▸ rfl⟩
  simp only [Finding.report, same]

end RecordType

/-- Texts of places identify them. Plain places are told apart by their texts, only that of the whole
value is empty, and places are joined with a dot before a field. Problems of records stand at plain
places, so that those of one payload have one field only if they stand at one place; positions beyond
the safe limit, which no list reaches, are left out. -/
theorem Path.render_identifies :
    (∀ p q : Path, p.Plain → q.Plain →
      (p.render = q.render → p = q) ∧ (p.render = "" ↔ p = []) ∧
      (p ++ q).render = p.render ++ joint p q ++ q.render) ∧
    ∀ (r : RecordType) (payload : Value) (root : String), ∀ f ∈ r.schema.check payload,
      (∀ segment ∈ f.path, (∃ name, segment = .key name ∧ IsPlainName name) ∨
        ∃ n : Nat, segment = .index (.ofNat n)) ∧
      ∀ g ∈ r.schema.check payload,
        (∀ n : Nat, .index (.ofNat n) ∈ f.path ++ g.path → n ≤ Number.safeLimit) →
        (f.report root).field = (g.report root).field → f.path = g.path := by
  refine ⟨?_, ?_⟩
  · intro p q plain other
    exact ⟨eq_of_render plain other, ⟨eq_nil_of_render plain, fun whole => whole ▸ rfl⟩,
      render_joined plain other⟩
  · intro r payload root f first
    refine ⟨RecordType.step_of_mem_check first, ?_⟩
    intro g second safe same
    have plain := RecordType.plain_of_mem_check first
      fun n step => safe n (List.mem_append_left _ step)
    have other := RecordType.plain_of_mem_check second
      fun n step => safe n (List.mem_append_right _ step)
    obtain ⟨fields, shape, _⟩ := r.schema_eq_record
    rw [shape] at first second
    have wholes := (Schema.path_eq_nil_iff first).trans (Schema.path_eq_nil_iff second).symm
    rw [RecordType.field_report plain, RecordType.field_report other] at same
    by_cases whole : f.path = []
    · rw [whole, wholes.mp whole]
    · rw [if_neg whole, if_neg (mt wholes.mpr whole)] at same
      exact eq_of_render plain other same

/-- A place that is also built step by step, one after it whose position is written with an exponent,
and a presence with two problems at one field. -/
theorem Path.render_identifies_status :
    let p : Path := [.key "presences", .index (.ofNat 0), .key "user"]
    let built : Path := Path.field (Path.item (Path.field [] "presences") 0) "user"
    let q : Path := [.index (.ofNat (10 ^ 21)), .key "id"]
    let payload : Value := .record [("status", .ofNat 5), ("user", .record [("id", .text "1")])]
    let f : Finding := ⟨[.key "status"],
      .notListed ["online", "idle", "dnd", "invisible", "offline"], .ofNat 5⟩
    let g : Finding := ⟨[.key "status"], .notText, .ofNat 5⟩
    p.Plain ∧ built.Plain ∧ p.render = built.render ∧ p = built ∧
      q.Plain ∧ q.render = "[1e+21].id" ∧ (p ++ q).render = p.render ++ "" ++ q.render ∧
      f ∈ RecordType.presence.schema.check payload ∧ g ∈ RecordType.presence.schema.check payload ∧
      (f.report "presence").field = (g.report "presence").field ∧ f.path = g.path := by
  intro p built q payload f g
  have names : IsPlainName "presences" ∧ IsPlainName "user" ∧ IsPlainName "id" := by decide
  have first : (Number.ofNat 0).IsNatural := Number.isNatural_of_safe (by decide)
  have far : (Number.ofNat (10 ^ 21)).IsNatural := ⟨10 ^ 21, by decide +kernel, rfl⟩
  have plain : p.Plain := by
    simp only [p, Path.Plain, List.forall_mem_cons]
    exact ⟨names.1, first, names.2.1, List.forall_mem_nil _⟩
  have other : q.Plain := by
    simp only [q, Path.Plain, List.forall_mem_cons]
    exact ⟨far, names.2.2, List.forall_mem_nil _⟩
  have found : f ∈ RecordType.presence.schema.check payload := List.mem_cons_self
  have second : g ∈ RecordType.presence.schema.check payload :=
    List.mem_cons_of_mem _ List.mem_cons_self
  have safe : ∀ n : Nat, .index (.ofNat n) ∈ f.path ++ g.path → n ≤ Number.safeLimit := by
    intro n step
    simp [f, g] at step
  obtain ⟨places, records⟩ := Path.render_identifies
  exact ⟨plain, plain, rfl, (places p built plain plain).1 rfl, other, by decide +kernel,
    (places p q plain other).2.2, found, second, rfl,
    (records .presence payload "presence" f found).2 g second safe rfl⟩

end ChatGateway
