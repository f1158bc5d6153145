import ChatGateway.Proofs.Link

/-! Which links are URIs. A link that is read is one unless it holds a stray character, has a very
long host name, or is a scheme and nothing else. -/
namespace ChatGateway.Url

/-! ### Plain links -/

/-- The host may stand in a URI. -/
def Host.Plain : Host → Prop
  | .domain name | .verbatim name => name.length ≤ 255 ∧ ∀ c ∈ name.toList, c ∉ strayInHost
  | .address4 _ | .address6 _ => True

def Route.stray : Route → List Char
  | .rootless _ => strayInRootless
  | .segments _ => strayInSegment

/-- A link that is a URI: it has a host or a path, a host of a URI, and no stray characters. -/
structure Plain (link : Url) : Prop where
  anchored : (∃ host, link.host = some host ∧ host.text ≠ "") ∨ link.route.text ≠ ""
  host : ∀ host, link.host = some host → host.Plain
  route : ∀ c ∈ link.route.text.toList, c ∉ link.route.stray
  query : ∀ query, link.query = some query → ∀ c ∈ query.toList, c ∉ strayInQuery
  fragment : ∀ fragment, link.fragment = some fragment →
    ∀ c ∈ fragment.toList, c ∉ strayInFragment

/-! ### Characters that divide -/

/-- The characters that end a host and what belongs to it, or the credentials before it. -/
def delimiters : List Char := "/?#@".toList

theorem not_delimiter_iff {c : Char} :
    c ∉ delimiters ↔ c ≠ '/' ∧ c ≠ '?' ∧ c ≠ '#' ∧ c ≠ '@' := by
  simp [delimiters]

theorem not_delimiter_of {p : Char → Bool} {answer : Bool}
    (other : delimiters.Forall (p · = !answer)) {c : Char} (holds : p c = answer) :
    c ∉ delimiters := by
  intro delimiter
  rw [List.forall_iff_forall_mem.mp other c delimiter] at holds
  cases answer <;> contradiction

theorem not_delimiter_of_isName {c : Char} (name : Uri.isName c = true) : c ∉ delimiters :=
  not_delimiter_of (by decide) name

theorem not_delimiter_of_isHostChar {c : Char} (host : IsHostChar c) : c ∉ delimiters :=
  not_delimiter_of (by decide) host.2

/-! ### Hosts and service numbers -/

/-- The text after a host that names a service number. -/
def serviceText (service : Option Nat) : List Char :=
  (service.map fun number => ':' :: Nat.toDigits 10 number).getD []

theorem isService_serviceText (service : Option Nat) :
    Uri.isService (serviceText service) = true := by
  cases service with
  | none => rfl
  | some number =>
    refine List.all_eq_true.mpr fun c member => ?_
    exact Nat.isDigit_of_mem_toDigits (by decide) (by decide) member

theorem serviceText_not_delimiter (service : Option Nat) :
    ∀ c ∈ serviceText service, c ∉ delimiters := by
  cases service with
  | none => exact List.forall_mem_nil _
  | some number =>
    refine List.forall_mem_cons.mpr ⟨by decide, ?_⟩
    intro c member
    have digit := @Nat.isDigit_of_mem_toDigits 10 number c (by decide) (by decide) member
    apply not_delimiter_of_isName
    simp [Uri.isName, Uri.isWord, Char.isAlphanum, digit]

/-- A name without colons is cut from the service number after it. -/
theorem isHostService_name {name : List Char} (colon : ':' ∉ name) (bracket : name.head? ≠ some '[')
    (service : Option Nat) : Uri.isHostService (name ++ serviceText service) = true ↔
      name ≠ [] ∧ name.length ≤ 255 ∧ ∀ c ∈ name, Uri.isName c = true := by
  have ends : serviceText service = [] ∨ ∃ digits, serviceText service = ':' :: digits := by
    cases service with
    | none => exact .inl rfl
    | some number => exact .inr ⟨_, rfl⟩
  obtain ⟨before, after⟩ := Cut.span_append colon ends
  have unbracketed : ∀ rest, name ++ serviceText service = '[' :: rest → False := by
    intro rest same
    cases name with
    | nil => cases service <;> cases same
    | cons c others =>
      obtain ⟨rfl, _⟩ := List.cons.inj same
      exact bracket rfl
  rw [Uri.isHostService.eq_def]
  split
  · rename_i rest same
    exact (unbracketed rest same).elim
  · dsimp only
    rw [before, after]
    simp [isService_serviceText, and_assoc]

theorem isHostService_address6 {groups : List Nat} (address : IsAddress6 groups)
    (service : Option Nat) :
    Uri.isHostService ((Host.address6 groups).text.toList ++ serviceText service) = true := by
  have text : (Host.address6 groups).text.toList ++ serviceText service =
      '[' :: ((text6 groups).toList ++ ']' :: serviceText service) := by
    simp [Host.text]
  have free : ']' ∉ (text6 groups).toList := by
    intro member
    rcases mem_text6 groups _ member with digit | colon
    · contradiction
    · contradiction
  rw [text, Uri.isHostService, Cut.first_append free]
  simp [isAddress6_text6 address, isService_serviceText]

theorem isHostService_text {text : String} (held : ∀ c ∈ text.toList, IsHostChar c)
    (service : Option Nat) : Uri.isHostService (text.toList ++ serviceText service) = true ↔
      text ≠ "" ∧ text.length ≤ 255 ∧ ∀ c ∈ text.toList, c ∉ strayInHost := by
  have colon : ':' ∉ text.toList := fun member => absurd (held _ member).2 (by decide)
  have bracket : text.toList.head? ≠ some '[' :=
    fun start => absurd (held _ (List.mem_of_head? start)).2 (by decide)
  rw [isHostService_name colon bracket, ne_eq, String.toList_eq_nil_iff, String.length_toList]
  refine and_congr_right fun _ => and_congr_right fun _ => forall₂_congr fun c member => ?_
  exact isName_iff_of_host (held c member).1 (held c member).2

theorem isHostService_iff {host : Host} (sound : host.Sound) (service : Option Nat) :
    Uri.isHostService (host.text.toList ++ serviceText service) = true ↔
      host.text ≠ "" ∧ host.Plain := by
  cases host with
  | domain name => exact isHostService_text sound.2 service
  | verbatim text => exact isHostService_text sound service
  | address4 value =>
    obtain ⟨nonempty, short, names⟩ := text4_spec value
    have colon : ':' ∉ (text4 value).toList := fun member => absurd (names _ member) (by decide)
    have bracket : (text4 value).toList.head? ≠ some '[' :=
      fun start => absurd (names _ (List.mem_of_head? start)) (by decide)
    rw [Host.text, isHostService_name colon bracket]
    exact ⟨fun _ => ⟨text_address4_ne_empty value, trivial⟩, fun _ => ⟨nonempty, short, names⟩⟩
  | address6 groups =>
    rw [isHostService_address6 sound]
    exact ⟨fun _ => ⟨text_address6_ne_empty groups, trivial⟩, fun _ => rfl⟩

theorem text_not_delimiter {host : Host} (sound : host.Sound) :
    ∀ c ∈ host.text.toList, c ∉ delimiters := by
  cases host with
  | domain name => exact fun c member => not_delimiter_of_isHostChar (sound.2 c member)
  | verbatim text => exact fun c member => not_delimiter_of_isHostChar (sound c member)
  | address4 value =>
    exact fun c member => not_delimiter_of_isName ((text4_spec value).2.2 c member)
  | address6 groups =>
    simp only [Host.text, String.toList_append, List.forall_mem_append]
    refine ⟨⟨List.forall_iff_forall_mem.mp (by decide), ?_⟩,
      List.forall_iff_forall_mem.mp (by decide)⟩
    intro c member
    rcases mem_text6 groups c member with digit | rfl
    · exact not_delimiter_of (by decide) digit
    · decide

/-! ### Authorities -/

section
variable {link : Url}

/-- Credentials in front of an `@`, or none at all. -/
theorem toList_credentials (sound : link.Sound) : link.credentials = "" ∨ ∃ user,
    link.credentials.toList = user ++ ['@'] ∧ ∀ c ∈ user, Uri.isName c = true ∨ c = ':' := by
  rw [credentials]
  split
  · exact .inl rfl
  · refine .inr ⟨link.user.toList ++
      (if link.password.isEmpty then "" else ":" ++ link.password).toList, by simp, ?_⟩
    rw [List.forall_mem_append]
    refine ⟨fun c member => .inl (sound.user c member), ?_⟩
    split
    · exact List.forall_mem_nil _
    · rw [String.toList_append, List.forall_mem_append]
      exact ⟨List.forall_iff_forall_mem.mp (by decide),
        fun c member => .inl (sound.password c member)⟩

theorem isAuthority_credentials (sound : link.Sound) {rest : List Char} (plain : '@' ∉ rest) :
    Uri.isAuthority (link.credentials.toList ++ rest) = Uri.isHostService rest := by
  rcases toList_credentials sound with none | ⟨user, text, names⟩
  · rw [none, Uri.isAuthority]
    simp [Cut.first_of_not_mem plain]
  · have free : '@' ∉ user := by
      intro member
      rcases names _ member with name | colon
      · contradiction
      · contradiction
    rw [text, List.append_assoc, List.singleton_append, Uri.isAuthority, Cut.first_append free]
    have allowed : (user.all fun c => Uri.isName c || c == ':') = true := by
      simpa using names
    simp [allowed]

theorem toList_authority {host : Host} (hosted : link.host = some host) :
    link.authority.toList = '/' :: '/' ::
      (link.credentials.toList ++ (host.text.toList ++ serviceText link.service)) := by
  rw [authority, hosted]
  cases link.service <;> simp [serviceText]

/-- What stands between the slashes and the path has no character that ends it. -/
theorem authority_undivided (sound : link.Sound) {host : Host} (hosted : link.host = some host) :
    ∀ c ∈ link.credentials.toList ++ (host.text.toList ++ serviceText link.service),
      c ≠ '/' ∧ c ≠ '?' ∧ c ≠ '#' := by
  have delimits {c : Char} (other : c ∉ delimiters) : c ≠ '/' ∧ c ≠ '?' ∧ c ≠ '#' := by
    obtain ⟨slash, query, fragment, _⟩ := not_delimiter_iff.mp other
    exact ⟨slash, query, fragment⟩
  simp only [List.forall_mem_append]
  refine ⟨?_, fun c member => delimits (text_not_delimiter (sound.host host hosted) c member),
    fun c member => delimits (serviceText_not_delimiter _ c member)⟩
  rcases toList_credentials sound with none | ⟨user, text, names⟩
  · rw [none]
    exact List.forall_mem_nil _
  · rw [text, List.forall_mem_append]
    refine ⟨?_, List.forall_mem_singleton.mpr (by decide)⟩
    intro c member
    rcases names c member with name | rfl
    · exact delimits (not_delimiter_of_isName name)
    · decide

theorem authority_ne_nil {host : Host} (nonempty : host.text ≠ "") :
    link.credentials.toList ++ (host.text.toList ++ serviceText link.service) ≠ [] := by
  simp [String.toList_eq_nil_iff, nonempty]

/-- A host is cut off at the slash after it. -/
theorem isHierarchy_authority {authority path : List Char} (nonempty : authority ≠ [])
    (undivided : '/' ∉ authority) (rooted : path = [] ∨ ∃ rest, path = '/' :: rest) :
    Uri.isHierarchy ('/' :: '/' :: (authority ++ path)) =
      (Uri.isAuthority authority && path.all Uri.isPath) := by
  obtain ⟨before, after⟩ := Cut.span_append undivided rooted
  obtain ⟨c, others, rfl⟩ := List.exists_cons_of_ne_nil nonempty
  have other : c ≠ '/' := by
    rintro rfl
    exact undivided List.mem_cons_self
  rw [Uri.isHierarchy]
  · rw [before, after]
  · intro rest same
    exact other (List.cons.inj same).1

theorem isHierarchy_rootless {path : List Char} (unrooted : path.head? ≠ some '/') :
    Uri.isHierarchy path = Uri.isRootless path := by
  have other (rest : List Char) : path ≠ '/' :: rest := by
    rintro rfl
    exact unrooted rfl
  rw [Uri.isHierarchy]
  · exact fun rest same => other _ same
  · exact fun rest same => other _ same
  · exact fun rest same => other _ same

/-- A path without a slash at its start. -/
theorem isRootless_iff {path : List Char} (unrooted : path.head? ≠ some '/') :
    Uri.isRootless path = true ↔ path ≠ [] ∧ ∀ c ∈ path, Uri.isPath c = true := by
  cases path with
  | nil => simp [Uri.isRootless]
  | cons c rest =>
    have other : c ≠ '/' := by
      rintro rfl
      exact unrooted rfl
    simp [Uri.isRootless, Uri.isPath, other]

theorem isHierarchy_path {path : List Char} (single : path.head? ≠ some '/') :
    Uri.isHierarchy ('/' :: path) = true ↔ ∀ c ∈ path, Uri.isPath c = true := by
  have cut : Uri.isHierarchy ('/' :: path) = (path.isEmpty || Uri.isRootless path) := by
    rw [Uri.isHierarchy]
    · rintro rest rfl
      exact single rfl
    · rintro rest rfl
      exact single rfl
  rw [cut, Bool.or_eq_true, isRootless_iff single]
  cases path with
  | nil => simp
  | cons c rest => simp

theorem toList_segments (parts : List String) : (Route.segments parts).text.toList =
    parts.flatMap fun part => '/' :: part.toList := by
  rw [Route.text, String.toList_join, List.flatMap_map]
  simp

theorem rooted_segments (parts : List String) : (Route.segments parts).text.toList = [] ∨
    ∃ rest, (Route.segments parts).text.toList = '/' :: rest := by
  rw [toList_segments]
  cases parts with
  | nil => exact .inl rfl
  | cons part rest => exact .inr ⟨_, rfl⟩

theorem plain_of_empty {host : Host} (sound : host.Sound) (empty : host.text = "") :
    host.Plain := by
  cases host with
  | domain name => exact absurd empty sound.1
  | verbatim text =>
    obtain rfl : text = "" := empty
    exact ⟨by decide, List.forall_mem_nil _⟩
  | address4 value => exact trivial
  | address6 groups => exact trivial

theorem isHierarchy_hosted (sound : link.Sound) {host : Host} (hosted : link.host = some host) :
    Uri.isHierarchy (link.authority.toList ++ link.route.text.toList) = true ↔
      (host.text ≠ "" ∨ link.route.text ≠ "") ∧ host.Plain ∧
        ∀ c ∈ link.route.text.toList, Uri.isPath c = true := by
  have whole := sound.host host hosted
  obtain ⟨parts, divided⟩ := sound.divided host hosted
  have rooted := rooted_segments parts
  rw [← divided] at rooted
  by_cases empty : host.text = ""
  · obtain ⟨anonymous, unnumbered⟩ := sound.alone host hosted empty
    have plain := plain_of_empty whole empty
    rw [toList_authority hosted, anonymous, unnumbered, empty]
    rcases rooted with none | ⟨rest, path⟩
    · rw [none]
      have nowhere : link.route.text = "" := String.toList_eq_nil_iff.mp none
      simp [nowhere]
      decide
    · have somewhere : link.route.text ≠ "" := by
        rw [ne_eq, ← String.toList_eq_nil_iff, path]
        exact List.cons_ne_nil _ _
      rw [path]
      have slash : Uri.isPath '/' = true := by decide
      simp [somewhere, plain, serviceText, Uri.isHierarchy, slash]
  · have nonempty := @authority_ne_nil link host empty
    have undivided := authority_undivided sound hosted
    have unowned : '@' ∉ host.text.toList ++ serviceText link.service := by
      intro member
      rcases List.mem_append.mp member with inside | after
      · exact text_not_delimiter whole _ inside (by decide)
      · exact serviceText_not_delimiter _ _ after (by decide)
    rw [toList_authority hosted, List.cons_append, List.cons_append,
      isHierarchy_authority nonempty (fun member => (undivided _ member).1 rfl) rooted,
      isAuthority_credentials sound unowned, Bool.and_eq_true, isHostService_iff whole,
      List.all_eq_true]
    simp [empty]

/-- A divided path starts with one slash alone where there is no host. -/
theorem toList_hostless (unhosted : link.host = none) {part : String} {rest : List String}
    (route : link.route = .segments (part :: rest)) (sound : link.route.Sound) :
    ∃ path, link.authority.toList ++ link.route.text.toList = '/' :: path ∧
      path.head? ≠ some '/' ∧ ((∀ c ∈ path, Uri.isPath c = true) ↔
        ∀ c ∈ link.route.text.toList, Uri.isPath c = true) := by
  have slash : Uri.isPath '/' = true := by decide
  have text : link.route.text.toList =
      '/' :: (part.toList ++ rest.flatMap fun part => '/' :: part.toList) := by
    rw [route, toList_segments, List.flatMap_cons, List.cons_append]
  by_cases empty : part = ""
  · subst empty
    cases rest with
    | nil =>
      refine ⟨[], ?_, nofun, ?_⟩
      · rw [authority, unhosted, route]
        rfl
      · rw [text]
        simp [slash]
    | cons next others =>
      have point : Uri.isPath '.' = true := by decide
      have apart : link.authority = "/." := by
        simp only [authority, unhosted, route]
      refine ⟨'.' :: link.route.text.toList, ?_, nofun, ?_⟩
      · rw [apart]
        rfl
      · rw [List.forall_mem_cons, and_iff_right point]
  · have unset : link.authority = "" := by
      rw [authority, unhosted, route]
      dsimp only
      split
      · rename_i same
        exact absurd (List.cons.inj (Route.segments.inj same)).1 empty
      · rfl
    obtain ⟨c, own, start⟩ :=
      List.exists_cons_of_ne_nil (fun nil => empty (String.toList_eq_nil_iff.mp nil))
    refine ⟨_, by rw [unset, text]; rfl, ?_, ?_⟩
    · rw [start, List.cons_append, List.head?_cons]
      rintro ⟨⟩
      rw [route, Route.Sound] at sound
      exact (sound part List.mem_cons_self '/' (start ▸ List.mem_cons_self)).2 rfl
    · rw [text, List.forall_mem_cons, and_iff_right slash]

theorem isHierarchy_hostless (sound : link.Sound) (unhosted : link.host = none) :
    Uri.isHierarchy (link.authority.toList ++ link.route.text.toList) = true ↔
      link.route.text ≠ "" ∧ ∀ c ∈ link.route.text.toList, Uri.isPath c = true := by
  have plain := sound.route
  cases route : link.route with
  | rootless text =>
    rw [route] at plain
    rw [authority, unhosted, route]
    dsimp only [Route.text]
    rw [String.toList_empty, List.nil_append, isHierarchy_rootless plain.1,
      isRootless_iff plain.1, ne_eq, String.toList_eq_nil_iff]
  | segments parts =>
    cases parts with
    | nil =>
      have unset : link.authority = "" := by
        rw [authority, unhosted, route]
      rw [unset]
      decide
    | cons part rest =>
      obtain ⟨path, text, single, paths⟩ := toList_hostless unhosted route plain
      have somewhere : (Route.segments (part :: rest)).text ≠ "" := by
        rw [ne_eq, ← String.toList_eq_nil_iff, toList_segments]
        exact List.cons_ne_nil _ _
      rw [← route, text, isHierarchy_path single, paths, route, and_iff_right somewhere]

/-! ### Paths, and what stands before queries -/

theorem kept_of_mem_segments {parts : List String} (sound : (Route.segments parts).Sound) :
    ∀ c ∈ (Route.segments parts).text.toList, encodesPath c = false := by
  rw [toList_segments]
  intro c member
  obtain ⟨part, listed, inside⟩ := List.mem_flatMap.mp member
  rcases List.mem_cons.mp inside with rfl | own
  · decide
  · exact (sound part listed c own).1

theorem isPath_iff_of_route {route : Route} (sound : route.Sound) {c : Char}
    (member : c ∈ route.text.toList) : Uri.isPath c = true ↔ c ∉ route.stray := by
  cases route with
  | rootless text => exact isPath_iff_of_rootless (sound.2 c member).1 (sound.2 c member).2
  | segments parts => exact isPath_iff_of_segment (kept_of_mem_segments sound c member)

theorem route_undivided {route : Route} (sound : route.Sound) :
    ∀ c ∈ route.text.toList, c ≠ '?' ∧ c ≠ '#' := by
  intro c member
  cases route with
  | rootless text => exact (sound.2 c member).2
  | segments parts =>
    have kept := kept_of_mem_segments sound c member
    constructor
    · rintro rfl
      exact absurd kept (by decide)
    · rintro rfl
      exact absurd kept (by decide)

theorem hierarchy_undivided (sound : link.Sound) :
    ∀ c ∈ link.authority.toList ++ link.route.text.toList, c ≠ '?' ∧ c ≠ '#' := by
  rw [List.forall_mem_append]
  refine ⟨?_, route_undivided sound.route⟩
  cases hosted : link.host with
  | some host =>
    rw [toList_authority hosted, List.forall_mem_cons, List.forall_mem_cons]
    exact ⟨by decide, by decide, fun c member => (authority_undivided sound hosted c member).2⟩
  | none =>
    rw [authority, hosted]
    dsimp only
    split
    · exact List.forall_iff_forall_mem.mp (by decide)
    · exact List.forall_mem_nil _

/-! ### Links -/

/-- The text of a part that a mark introduces. -/
def marked (mark : Char) (part : Option String) : List Char :=
  ((part.map String.toList).map (mark :: ·)).getD []

theorem first_marked {mark : Char} {text : List Char} (free : mark ∉ text) (part : Option String) :
    Cut.first mark (text ++ marked mark part) = (text, part.map String.toList) :=
  Cut.first_option free _

theorem toList_href (link : Url) : link.href.toList = link.scheme.toList ++ ':' ::
    (link.authority.toList ++ link.route.text.toList ++ marked '?' link.query ++
      marked '#' link.fragment) := by
  rw [href]
  cases link.query <;> cases link.fragment <;> simp [marked]

theorem not_mem_marked {mark c : Char} {part : Option String} (other : c ≠ mark)
    (free : ∀ text, part = some text → c ∉ text.toList) : c ∉ marked mark part := by
  cases part with
  | none => exact List.not_mem_nil
  | some text =>
    intro member
    rcases List.mem_cons.mp member with same | inside
    · exact other same
    · exact free text rfl inside

theorem startsAuthority_of_web (sound : link.Sound)
    (needs : Uri.needsAuthority link.scheme.toList = true) (rest : List Char) :
    Uri.startsAuthority (link.authority.toList ++ rest) = true := by
  obtain ⟨host, hosted, nonempty⟩ := sound.web needs
  have undivided := authority_undivided sound hosted
  obtain ⟨c, others, text⟩ := List.exists_cons_of_ne_nil (@authority_ne_nil link host nonempty)
  have other : c ≠ '/' := (undivided c (text ▸ List.mem_cons_self)).1
  rw [toList_authority hosted, text, List.cons_append, List.cons_append, List.cons_append,
    Uri.startsAuthority]
  · intro rest same
    exact other (List.cons.inj same).1

theorem isHierarchy_href (sound : link.Sound) :
    Uri.isHierarchy (link.authority.toList ++ link.route.text.toList) = true ↔
      ((∃ host, link.host = some host ∧ host.text ≠ "") ∨ link.route.text ≠ "") ∧
        (∀ host, link.host = some host → host.Plain) ∧
        ∀ c ∈ link.route.text.toList, c ∉ link.route.stray := by
  have paths : (∀ c ∈ link.route.text.toList, Uri.isPath c = true) ↔
      ∀ c ∈ link.route.text.toList, c ∉ link.route.stray :=
    forall₂_congr fun c member => isPath_iff_of_route sound.route member
  cases hosted : link.host with
  | some host => rw [isHierarchy_hosted sound hosted, paths]; simp
  | none => rw [isHierarchy_hostless sound hosted, paths]; simp

/-- An optional part of a link has only characters that are allowed there. -/
theorem all_option_iff {part : Option String} {p : Char → Bool} {stray : List Char}
    (each : ∀ text, part = some text → ∀ c ∈ text.toList, (p c = true ↔ c ∉ stray)) :
    ((part.map String.toList).getD []).all p = true ↔
      ∀ text, part = some text → ∀ c ∈ text.toList, c ∉ stray := by
  cases part with
  | none => simp
  | some text =>
    have here := forall₂_congr (each text rfl)
    simpa using here

/-- A link that is read is a URI exactly if it is plain. -/
theorem accepts_href_iff (sound : link.Sound) : Uri.accepts link.href = true ↔ link.Plain := by
  have colon : ':' ∉ link.scheme.toList :=
    fun member => absurd (sound.scheme.2 _ member) (by decide)
  have hierarchy := hierarchy_undivided sound
  have mark : '?' ∉ link.authority.toList ++ link.route.text.toList :=
    fun member => (hierarchy _ member).1 rfl
  have hash : '#' ∉ link.authority.toList ++ link.route.text.toList ++ marked '?' link.query := by
    intro member
    rcases List.mem_append.mp member with before | after
    · exact (hierarchy _ before).2 rfl
    · refine not_mem_marked (by decide) ?_ after
      exact fun query same inside => absurd (sound.query query same _ inside) (by decide)
  have scheme : link.scheme.toList.all Uri.isScheme = true :=
    List.all_eq_true.mpr sound.scheme.2
  have web : (!Uri.needsAuthority link.scheme.toList || Uri.startsAuthority
      (link.authority.toList ++ link.route.text.toList ++ marked '?' link.query ++
        marked '#' link.fragment)) = true := by
    cases needs : Uri.needsAuthority link.scheme.toList with
    | false => rfl
    | true =>
      rw [List.append_assoc, List.append_assoc]
      exact startsAuthority_of_web sound needs _
  have query := @all_option_iff link.query Uri.isTail strayInQuery fun query same c member =>
    isTail_iff_of_query (sound.query query same c member)
  have fragment := @all_option_iff link.fragment Uri.isTail strayInFragment
    fun fragment same c member => isTail_iff_of_fragment (sound.fragment fragment same c member)
  rw [Uri.accepts, toList_href, Cut.first_append colon]
  dsimp only
  rw [first_marked hash, first_marked mark, sound.scheme.1, scheme, web]
  simp only [Bool.true_and, Bool.and_eq_true, isHierarchy_href sound, query, fragment]
  constructor
  · rintro ⟨⟨⟨anchored, host, route⟩, query⟩, fragment⟩
    exact ⟨anchored, host, route, query, fragment⟩
  · rintro ⟨anchored, host, route, query, fragment⟩
    exact ⟨⟨⟨anchored, host, route⟩, query⟩, fragment⟩

end

end ChatGateway.Url
