import ChatGateway.Proofs.Host

/-! What holds of every link that is read: which characters its parts have, and which parts it has
together. -/
namespace ChatGateway.Url

/-- A letter, and more of the characters that schemes may have. -/
def IsScheme (scheme : String) : Prop :=
  (scheme.toList.head?.map Char.isAlpha).getD false = true ∧
    ∀ c ∈ scheme.toList, Uri.isScheme c = true

/-- A segment of a path may keep the character. -/
def IsSegmentChar (c : Char) : Prop :=
  encodesPath c = false ∧ c ≠ '/'

instance : DecidablePred IsSegmentChar :=
  fun _ => inferInstanceAs (Decidable (_ ∧ _))

/-- A path that is not divided may keep the character. -/
def IsRootlessChar (c : Char) : Prop :=
  encodesControl c = false ∧ c ≠ '?' ∧ c ≠ '#'

instance : DecidablePred IsRootlessChar :=
  fun _ => inferInstanceAs (Decidable (_ ∧ _ ∧ _))

def Route.Sound : Route → Prop
  | .rootless text => text.toList.head? ≠ some '/' ∧ ∀ c ∈ text.toList, IsRootlessChar c
  | .segments parts => ∀ part ∈ parts, ∀ c ∈ part.toList, IsSegmentChar c

/-- What holds of every link that is read. A link with a host has a divided path, and nothing
belongs to an empty host. -/
structure Sound (link : Url) : Prop where
  scheme : IsScheme link.scheme
  user : ∀ c ∈ link.user.toList, Uri.isName c = true
  password : ∀ c ∈ link.password.toList, Uri.isName c = true
  host : ∀ host, link.host = some host → host.Sound
  divided : ∀ host, link.host = some host → ∃ parts, link.route = .segments parts
  alone : ∀ host, link.host = some host → host.text = "" →
    link.credentials = "" ∧ link.service = none
  web : Uri.needsAuthority link.scheme.toList = true →
    ∃ host, link.host = some host ∧ host.text ≠ ""
  route : link.route.Sound
  query : ∀ query, link.query = some query → ∀ c ∈ query.toList, encodesQuery c = false
  fragment : ∀ fragment, link.fragment = some fragment →
    ∀ c ∈ fragment.toList, encodesFragment c = false

/-! ### Paths -/

theorem isSegmentChar_of_isAlpha {c : Char} (letter : c.isAlpha = true) : IsSegmentChar c := by
  have control : encodesControl c = false :=
    encodesControl_of_isAlphanum (Bool.or_eq_true_iff.mpr (.inl letter))
  refine @of_encodesControl c (fun c => c.isAlpha = true → IsSegmentChar c) ?_ control letter
  decide +kernel

section
variable {special file : Bool} {parts : List String} {text segment : List Char}

theorem segmentText_sound (plain : '/' ∉ segment) :
    ∀ c ∈ (segmentText file parts segment).toList, IsSegmentChar c := by
  rw [segmentText]
  split
  · rename_i drive
    simp only [Bool.and_eq_true] at drive
    match segment, drive.2 with
    | [letter, mark], drive =>
      rw [isDrive, Bool.and_eq_true] at drive
      have colon : IsSegmentChar ':' := by decide
      simpa using ⟨isSegmentChar_of_isAlpha drive.1, colon⟩
  · rw [String.toList_ofList]
    apply forall_mem_percentEncode
    · decide
    · intro c member kept
      refine ⟨kept, ?_⟩
      rintro rfl
      exact plain member

theorem leave_subset : leave file parts ⊆ parts := by
  unfold leave
  split
  · split
    · exact List.Subset.refl _
    · exact List.nil_subset _
  · exact List.dropLast_subset _

/-- Following segments keeps a path sound. -/
theorem follow_sound {segments : List (List Char)} (sound : (Route.segments parts).Sound)
    (plain : ∀ segment ∈ segments, '/' ∉ segment) :
    (Route.segments (follow special file parts segments)).Sound := by
  have empty : ∀ c ∈ "".toList, IsSegmentChar c := List.forall_mem_nil _
  induction segments generalizing parts with
  | nil => exact sound
  | cons segment rest ih =>
    simp only [List.forall_mem_cons] at plain
    have left : (Route.segments (leave file parts)).Sound :=
      fun part member => sound part (leave_subset member)
    have extended {parts : List String} (sound : (Route.segments parts).Sound) {part : String}
        (own : ∀ c ∈ part.toList, IsSegmentChar c) : (Route.segments (parts ++ [part])).Sound :=
      List.forall_mem_append.mpr ⟨sound, List.forall_mem_singleton.mpr own⟩
    rw [follow]
    apply ih _ plain.2
    split
    · dsimp only
      split
      · exact extended left empty
      · exact left
    · split
      · split
        · exact extended sound empty
        · exact sound
      · exact extended sound (segmentText_sound plain.1)

theorem resolve_sound (special file : Bool) (text : List Char) :
    ∃ parts, resolve special file text = .segments parts ∧ (Route.segments parts).Sound := by
  rw [resolve]
  split
  · rename_i stands
    refine ⟨_, rfl, ?_⟩
    simp only [standsAsIs, Bool.and_eq_true, List.all_eq_true, Bool.not_eq_true'] at stands
    intro part member c inside
    obtain ⟨cut, listed, rfl⟩ := List.mem_map.mp member
    rw [String.toList_ofList] at inside
    obtain ⟨held, apart⟩ := Cut.mem_of_mem_split listed inside
    exact ⟨(stands.1.1.1 c held).1.1, by simpa using apart⟩
  · refine ⟨_, rfl, follow_sound (List.forall_mem_nil _) ?_⟩
    intro segment listed slash
    have := (Cut.mem_of_mem_split listed slash).2
    simp [divides] at this

theorem rootless_sound (before : ∀ c ∈ text, c ≠ '?' ∧ c ≠ '#')
    (unrooted : ∀ rest, text = '/' :: rest → False) :
    (Route.rootless (String.ofList (percentEncode encodesControl text))).Sound := by
  rw [Route.Sound, String.toList_ofList]
  constructor
  · cases text with
    | nil => nofun
    | cons c rest =>
      obtain ⟨d, others, encoded, start⟩ := percentEncode_cons encodesControl c rest
      rw [encoded, List.head?_cons]
      rintro ⟨⟩
      rcases start with rfl | percent
      · exact unrooted rest rfl
      · contradiction
  · apply forall_mem_percentEncode
    · decide
    · exact fun c member kept => ⟨kept, before c member⟩

end

/-! ### Hosts and what belongs to them -/

theorem isName_of_mem_user {text : List Char} :
    ∀ c ∈ (String.ofList (percentEncode encodesUser text)).toList, Uri.isName c = true := by
  rw [String.toList_ofList]
  apply forall_mem_percentEncode
  · decide
  · exact fun c _ kept => isName_of_user kept

theorem isSpecial_of_needsAuthority {scheme : String}
    (needs : Uri.needsAuthority scheme.toList = true) : isSpecial scheme = true := by
  simp only [Uri.needsAuthority, Bool.or_eq_true, beq_iff_eq, String.toList_inj] at needs
  rcases needs with rfl | rfl
  · decide
  · decide

theorem withAuthority?_sound {scheme : String} (named : IsScheme scheme) {text : List Char}
    {parts : List String} (route : (Route.segments parts).Sound) {link : Url}
    (read : withAuthority? scheme text (.segments parts) = some link) : link.Sound := by
  rw [withAuthority?] at read
  split at read
  rename_i user hostService _
  split at read
  rename_i hostText serviceText _
  dsimp only at read
  split at read
  · contradiction
  · rename_i allowed
    obtain ⟨host, given, read⟩ := Option.bind_eq_some_iff.mp read
    obtain ⟨service, number, read⟩ := Option.bind_eq_some_iff.mp read
    obtain rfl := Option.some.inj read
    obtain ⟨sound, empty⟩ := host?_sound given
    simp only [Bool.and_eq_true, List.isEmpty_iff, Bool.or_eq_true, not_and, not_or] at allowed
    refine ⟨named, isName_of_mem_user, isName_of_mem_user, ?_, ?_, ?_, ?_, route, nofun, nofun⟩
    · rintro _ ⟨⟩
      exact sound
    · exact fun _ _ => ⟨parts, rfl⟩
    · rintro _ ⟨⟩ vacant
      obtain ⟨⟨_, anonymous⟩, unnumbered⟩ := allowed (empty vacant)
      obtain rfl : user = none := by simpa using anonymous
      obtain rfl : serviceText = none := by simpa using unnumbered
      exact ⟨rfl, (Option.some.inj number).symm⟩
    · intro needs
      refine ⟨host, rfl, ?_⟩
      intro vacant
      exact (allowed (empty vacant)).1.1 (isSpecial_of_needsAuthority needs)

theorem file_sound {host : Host} (sound : host.Sound) (text : List Char) :
    Sound { scheme := "file", host := some host, route := resolve true true text } := by
  obtain ⟨parts, resolved, route⟩ := resolve_sound true true text
  rw [resolved]
  have named : IsScheme "file" := ⟨by decide, List.forall_iff_forall_mem.mp (by decide)⟩
  have unneeded : Uri.needsAuthority "file".toList = false := by decide
  refine ⟨named, List.forall_mem_nil _, List.forall_mem_nil _, ?_, ?_, ?_, ?_, route,
    nofun, nofun⟩
  · rintro _ ⟨⟩
    exact sound
  · exact fun _ _ => ⟨parts, rfl⟩
  · exact fun _ _ _ => ⟨rfl, rfl⟩
  · intro needs
    rw [unneeded] at needs
    contradiction

theorem fileWithHost?_sound {text : List Char} {link : Url}
    (read : fileWithHost? text = some link) : link.Sound := by
  have vacant : (Host.verbatim "").Sound := List.forall_mem_nil _
  rw [fileWithHost?] at read
  split at read
  · obtain rfl := Option.some.inj read
    exact file_sound vacant _
  · dsimp only at read
    split at read
    · obtain rfl := Option.some.inj read
      exact file_sound vacant _
    · obtain ⟨host, given, read⟩ := Option.bind_eq_some_iff.mp read
      obtain rfl := Option.some.inj read
      apply file_sound
      split
      · exact vacant
      · exact (host?_sound given).1

theorem file?_sound {text : List Char} {link : Url} (read : file? text = some link) :
    link.Sound := by
  have vacant : (Host.verbatim "").Sound := List.forall_mem_nil _
  rw [file?.eq_def] at read
  dsimp only at read
  split at read
  · split at read
    · exact fileWithHost?_sound read
    · obtain rfl := Option.some.inj read
      exact file_sound vacant _
  · obtain rfl := Option.some.inj read
    exact file_sound vacant _

/-! ### Links -/

theorem hostless_sound {scheme : String} (named : IsScheme scheme)
    (ordinary : isSpecial scheme = false) {route : Route} (sound : route.Sound) :
    Sound { scheme, route } := by
  refine ⟨named, List.forall_mem_nil _, List.forall_mem_nil _, nofun, nofun, nofun, ?_, sound,
    nofun, nofun⟩
  intro needs
  rw [isSpecial_of_needsAuthority needs] at ordinary
  contradiction

theorem hierarchy?_sound {scheme : String} (named : IsScheme scheme) {text : List Char}
    (before : ∀ c ∈ text, c ≠ '?' ∧ c ≠ '#') {link : Url}
    (read : hierarchy? scheme text = some link) : link.Sound := by
  rw [hierarchy?.eq_def] at read
  split at read
  · exact file?_sound read
  · split at read
    · obtain ⟨parts, resolved, route⟩ := resolve_sound true false
        (dropSlash true ((text.dropWhile (divides true)).dropWhile (! divides true ·)))
      dsimp only at read
      rw [resolved] at read
      exact withAuthority?_sound named route read
    · rename_i ordinary
      have ordinary := Bool.eq_false_iff.mpr ordinary
      split at read
      · rename_i rest
        dsimp only at read
        split at read
        · exact withAuthority?_sound named (List.forall_mem_nil _) read
        · obtain ⟨parts, resolved, route⟩ := resolve_sound false false
            ((rest.dropWhile (· != '/')).drop 1)
          rw [resolved] at read
          exact withAuthority?_sound named route read
      · rename_i rest _
        obtain rfl := Option.some.inj read
        obtain ⟨parts, resolved, route⟩ := resolve_sound false false rest
        rw [resolved]
        exact hostless_sound named ordinary route
      · obtain rfl := Option.some.inj read
        apply hostless_sound named ordinary
        exact rootless_sound before ‹_›

theorem isScheme_toLower {c : Char} (allowed : (c.isAlphanum || "+-.".toList.contains c) = true) :
    Uri.isScheme c.toLower = true := by
  have control : encodesControl c = false := by
    rcases Bool.or_eq_true_iff.mp allowed with word | sign
    · exact encodesControl_of_isAlphanum word
    · have signs : "+-.".toList.Forall (encodesControl · = false) := by decide
      exact List.forall_iff_forall_mem.mp signs c (List.contains_iff_mem.mp sign)
  refine @of_encodesControl c (fun c => (c.isAlphanum || "+-.".toList.contains c) = true →
    Uri.isScheme c.toLower = true) ?_ control allowed
  decide +kernel

theorem isAlpha_toLower {c : Char} (letter : c.isAlpha = true) : c.toLower.isAlpha = true := by
  have control : encodesControl c = false :=
    encodesControl_of_isAlphanum (Bool.or_eq_true_iff.mpr (.inl letter))
  refine @of_encodesControl c (fun c => c.isAlpha = true → c.toLower.isAlpha = true) ?_ control
    letter
  decide +kernel

theorem scheme?_sound {text rest : List Char} {scheme : String}
    (read : scheme? text = some (scheme, rest)) : IsScheme scheme := by
  rw [scheme?] at read
  split at read
  · split at read
    · rename_i name _ _ allowed
      obtain ⟨rfl, _⟩ := Prod.mk.inj (Option.some.inj read)
      rw [Bool.and_eq_true, List.all_eq_true] at allowed
      constructor
      · rw [String.toList_ofList]
        cases name with
        | nil => exact absurd allowed.1 (by decide)
        | cons c others => exact isAlpha_toLower allowed.1
      · rw [String.toList_ofList, List.forall_mem_map]
        exact fun c member => isScheme_toLower (allowed.2 c member)
    · contradiction
  · contradiction

/-- Every link that is read is sound. -/
theorem ofText?_sound {text : String} {link : Url} (read : ofText? text = some link) :
    link.Sound := by
  obtain ⟨⟨scheme, rest⟩, named, read⟩ := Option.bind_eq_some_iff.mp read
  obtain ⟨placed, held, read⟩ := Option.bind_eq_some_iff.mp read
  obtain rfl := Option.some.inj read
  have before : ∀ c ∈ (Cut.first '?' (Cut.first '#' rest).1).1, c ≠ '?' ∧ c ≠ '#' := by
    intro c member
    constructor
    · rintro rfl
      exact Cut.not_mem_first member
    · rintro rfl
      exact Cut.not_mem_first (Cut.mem_of_mem_first member)
  have sound := hierarchy?_sound (scheme?_sound named) before held
  refine { sound with query := ?_, fragment := ?_ }
  · intro query same
    obtain ⟨own, _, rfl⟩ := Option.map_eq_some_iff.mp same
    rw [String.toList_ofList]
    apply forall_mem_percentEncode
    · decide
    · intro c _ kept
      split at kept
      · exact encodesQuery_of_special kept
      · exact kept
  · intro fragment same
    obtain ⟨own, _, rfl⟩ := Option.map_eq_some_iff.mp same
    rw [String.toList_ofList]
    exact forall_mem_percentEncode (by decide) fun c _ kept => kept

end ChatGateway.Url
