import AitpPlayground.Cli.New

/-!
# `AitpPlayground.Proofs.Cli.New`: which references are parsed

`mem_kebab_iff` and `mem_semver_iff` say which texts the two patterns match. A `$` also lets a
line feed at the end through, and `\d` the decimal digits of every script, so
`parseScenarioRef_eq_ok_iff` has the references that are parsed as `LooseRef`: the references
of the grammar (`IsRef`), with these two liberties.

`parsed_exactly_iff` says where that makes a difference. The parts are single components of a
path in any case: none has a slash, and each has a letter or a digit.
-/

set_option autoImplicit false

namespace AitpPlayground.Proofs.Cli

open AitpPlayground.Lib
open AitpPlayground.Lib.Regex
open AitpPlayground.Cli

/-! ### The grammar -/

/-- Kebab-case: groups of letters and digits with a hyphen between any two, the first of which
begins with a letter. -/
def Kebab (s : List Char) : Prop :=
  Words '-' slugChars s ∧ ∃ c ∈ lowerLetters, s.head? = some c

/-- Three runs of digits with a dot between any two. -/
def Version (digits s : List Char) : Prop :=
  Words '.' digits s ∧ (s.splitOn '.').length = 3

/-- The reference is `<pack>/<scenario>@<version>`. -/
def IsRef (ref pack scenario version : String) : Prop :=
  ref.toList = pack.toList ++ '/' :: (scenario.toList ++ '@' :: version.toList) ∧
    Kebab pack.toList ∧ Kebab scenario.toList ∧ Version asciiDigits version.toList

/-- The same, with a line feed let through at the end of each part and the decimal digits of
every script in the version. -/
def LooseRef (ref pack scenario version : String) : Prop :=
  ref.toList = pack.toList ++ '/' :: (scenario.toList ++ '@' :: version.toList) ∧
    Kebab (chomp pack.toList) ∧ Kebab (chomp scenario.toList) ∧
    Version decimals (chomp version.toList)

/-! ### Characters -/

/-- The characters of a slug are letters and digits of ASCII. -/
theorem mem_charRange_of_slug {c : Char} (h : c ∈ slugChars) :
    0x30 ≤ c.toNat ∧ c.toNat ≤ 0x7A ∧ c.toNat ≠ 0x40 := by
  rcases List.mem_append.mp h with h | h
  · have hc := (mem_charRange (by decide)).mp h
    have ha : 'a'.toNat = 0x61 := rfl
    have hz : 'z'.toNat = 0x7A := rfl
    omega
  · have hc := (mem_charRange (by decide)).mp h
    have h0 : '0'.toNat = 0x30 := rfl
    have h9 : '9'.toNat = 0x39 := rfl
    omega

/-- The decimals are those of ASCII, or come after the Latin letters. -/
theorem mem_charRange_of_decimal {c : Char} (h : c ∈ decimals) :
    0x30 ≤ c.toNat ∧ (c.toNat ≤ 0x39 ∨ 0x660 ≤ c.toNat) := by
  rcases mem_charRange_or_of_mem_decimals h with h | h
  · have hc := (mem_charRange (by decide)).mp h
    have h0 : '0'.toNat = 0x30 := rfl
    have h9 : '9'.toNat = 0x39 := rfl
    omega
  · omega

/-- A hyphen is no character of a slug. -/
theorem hyphen_notMem : '-' ∉ slugChars := fun h =>
  absurd (mem_charRange_of_slug h).1 (by decide)

/-- A dot is no decimal. -/
theorem dot_notMem : '.' ∉ decimals := fun h =>
  absurd (mem_charRange_of_decimal h).1 (by decide)

/-! ### The patterns -/

/-- The first group of `_KEBAB`. -/
theorem mem_firstGroup_iff {s : List Char} :
    s ∈ (oneOf lowerLetters * (oneOf slugChars).star).matches' ↔
      (s ≠ [] ∧ ∀ c ∈ s, c ∈ slugChars) ∧ ∃ c ∈ lowerLetters, s.head? = some c := by
  rw [RegularExpression.matches'_mul, Language.mem_mul]
  constructor
  · rintro ⟨first, hfirst, rest, hrest, rfl⟩
    obtain ⟨c, hc, rfl⟩ := mem_oneOf.mp hfirst
    have hslug : c ∈ slugChars := List.mem_append_left _ hc
    exact ⟨⟨by simp, List.forall_mem_cons.mpr ⟨hslug, mem_star_oneOf.mp hrest⟩⟩, c, hc, rfl⟩
  · rintro ⟨⟨hne, hall⟩, c, hc, hhead⟩
    obtain ⟨d, rest, rfl⟩ := List.exists_cons_of_ne_nil hne
    obtain rfl : d = c := Option.some.inj hhead
    exact ⟨[d], mem_oneOf.mpr ⟨d, hc, rfl⟩, rest,
      mem_star_oneOf.mpr (List.forall_mem_cons.mp hall).2, rfl⟩

/-- The first pattern matches runs of slug characters with hyphens between them. -/
theorem mem_kebab_iff {s : List Char} : s ∈ kebab.matches' ↔ Kebab s := by
  unfold Kebab
  rw [← words_iff hyphen_notMem]
  constructor
  · intro h
    obtain ⟨first, hfirst, rest, hrest, rfl⟩ := Language.mem_mul.mp h
    obtain ⟨hword, c, hc, hhead⟩ := mem_firstGroup_iff.mp hfirst
    refine ⟨Language.mem_mul.mpr ⟨first, mem_oneOrMore.mpr hword, rest, hrest, rfl⟩, c, hc, ?_⟩
    rw [List.head?_append_of_ne_nil _ hword.1, hhead]
  · rintro ⟨h, c, hc, hhead⟩
    obtain ⟨first, hfirst, rest, hrest, rfl⟩ := Language.mem_mul.mp h
    have hword := mem_oneOrMore.mp hfirst
    rw [List.head?_append_of_ne_nil _ hword.1] at hhead
    exact Language.mem_mul.mpr
      ⟨first, mem_firstGroup_iff.mpr ⟨hword, c, hc, hhead⟩, rest, hrest, rfl⟩

/-- A version is three runs of digits and two dots. -/
theorem version_iff {digits : List Char} (hdot : '.' ∉ digits) {s : List Char} :
    Version digits s ↔ ∃ major minor patch, s = major ++ '.' :: (minor ++ '.' :: patch) ∧
      ∀ run ∈ [major, minor, patch], run ≠ [] ∧ ∀ c ∈ run, c ∈ digits := by
  constructor
  · rintro ⟨hwords, hlength⟩
    obtain ⟨major, minor, patch, hsplit⟩ := List.length_eq_three.mp hlength
    have hjoin : List.intercalate ['.'] (s.splitOn '.') = s := List.intercalate_splitOn '.'
    unfold Words at hwords
    rw [hsplit] at hwords hjoin
    exact ⟨major, minor, patch, by rw [← hjoin]; simp [List.intercalate], hwords⟩
  · rintro ⟨major, minor, patch, rfl, hruns⟩
    have hnot : ∀ run ∈ [major, minor, patch], '.' ∉ run := fun run hrun hmem =>
      hdot ((hruns run hrun).2 _ hmem)
    have hsplit : (major ++ '.' :: (minor ++ '.' :: patch)).splitOn '.' =
        [major, minor, patch] := by
      rw [List.splitOn_append_cons_self_of_not_mem (hnot major (by simp)),
        List.splitOn_append_cons_self_of_not_mem (hnot minor (by simp)),
        List.splitOn_eq_singleton (hnot patch (by simp))]
    unfold Version Words
    rw [hsplit]
    exact ⟨hruns, rfl⟩

/-- The second one matches three runs of decimals with dots between them. -/
theorem mem_semver_iff {s : List Char} : s ∈ semver.matches' ↔ Version decimals s := by
  rw [version_iff dot_notMem]
  constructor
  · intro h
    obtain ⟨_, h3, patch, hpatch, rfl⟩ := Language.mem_mul.mp h
    obtain ⟨_, h2, _, rfl, rfl⟩ := Language.mem_mul.mp h3
    obtain ⟨_, h1, minor, hminor, rfl⟩ := Language.mem_mul.mp h2
    obtain ⟨major, hmajor, _, rfl, rfl⟩ := Language.mem_mul.mp h1
    refine ⟨major, minor, patch, by simp, ?_⟩
    simp only [List.forall_mem_cons]
    exact ⟨mem_oneOrMore.mp hmajor, mem_oneOrMore.mp hminor, mem_oneOrMore.mp hpatch, by simp⟩
  · rintro ⟨major, minor, patch, rfl, hruns⟩
    have hrun : ∀ run ∈ [major, minor, patch], run ∈ (oneOrMore (oneOf decimals)).matches' :=
      fun run hmem => mem_oneOrMore.mpr (hruns run hmem)
    refine Language.mem_mul.mpr ⟨major ++ ['.'] ++ minor ++ ['.'], ?_, patch,
      hrun patch (by simp), by simp⟩
    refine Language.mem_mul.mpr ⟨major ++ ['.'] ++ minor, ?_, ['.'], rfl, rfl⟩
    refine Language.mem_mul.mpr ⟨major ++ ['.'], ?_, minor, hrun minor (by simp), rfl⟩
    exact Language.mem_mul.mpr ⟨major, hrun major (by simp), ['.'], rfl, rfl⟩

/-- A kebab-case text has letters, digits and hyphens. -/
theorem Kebab.mem {s : List Char} (h : Kebab s) {c : Char} (hc : c ∈ s) :
    0x2D ≤ c.toNat ∧ c.toNat ≤ 0x7A ∧ c.toNat ≠ 0x2F ∧ c.toNat ≠ 0x40 := by
  rcases h.1.mem hc with rfl | hslug
  · decide
  · have hrange := mem_charRange_of_slug hslug
    omega

/-- A version has digits and dots. -/
theorem Version.mem {s : List Char} (h : Version decimals s) {c : Char} (hc : c ∈ s) :
    0x2E ≤ c.toNat ∧ c.toNat ≠ 0x2F := by
  rcases h.1.mem hc with rfl | hdigit
  · decide
  · have hrange := mem_charRange_of_decimal hdigit
    omega

/-- `$` lets a line feed at the end pass. -/
theorem reMatch_kebab_iff {s : List Char} : reMatch kebab s = true ↔ Kebab (chomp s) := by
  rw [reMatch_iff, mem_kebab_iff]
  intro s hs hmem
  exact absurd ((mem_kebab_iff.mp hs).mem hmem).1 (by decide)

/-- `$` lets a line feed at the end of a version pass. -/
theorem reMatch_semver_iff {s : List Char} :
    reMatch semver s = true ↔ Version decimals (chomp s) := by
  rw [reMatch_iff, mem_semver_iff]
  intro s hs hmem
  exact absurd ((mem_semver_iff.mp hs).mem hmem).1 (by decide)

/-! ### The references that are parsed -/

section
variable {py : PyLib}

/-- A text is split at the first separator. -/
theorem splitPair_eq_ok_iff {sep : Char} {s l rest : List Char} :
    splitPair sep s = .ok (l, rest) ↔ s = l ++ sep :: rest ∧ sep ∉ l := by
  unfold splitPair
  by_cases hmem : sep ∈ s
  · obtain ⟨before, after, rfl, hnot⟩ := List.eq_append_cons_of_mem hmem
    rw [splitOnce_append hnot]
    constructor
    · intro h
      cases h
      exact ⟨rfl, hnot⟩
    · rintro ⟨heq, hl⟩
      obtain ⟨rfl, rfl⟩ := (append_sep_inj hnot hl).mp heq
      rfl
  · rw [splitOnce_eq_none hmem]
    constructor
    · intro h
      cases h
    · rintro ⟨rfl, -⟩
      exact absurd (by simp) hmem

/-- A part is checked when its pattern matches. -/
theorem checkPart_eq_ok_iff {pattern : RegularExpression Char} {message : String}
    {s : List Char} : checkPart py pattern message s = .ok () ↔ reMatch pattern s = true := by
  unfold checkPart
  split <;> simp [*]

/-- A slug has no separator, also with a line feed behind it. -/
theorem notMem_of_kebab {s : List Char} (h : Kebab (chomp s)) : '/' ∉ s ∧ '@' ∉ s := by
  constructor <;> intro hmem <;> rcases mem_chomp_or hmem with hmem | hmem
  · exact absurd (h.mem hmem).2.2.1 (by decide)
  · exact absurd hmem (by decide)
  · exact absurd (h.mem hmem).2.2.2 (by decide)
  · exact absurd hmem (by decide)

/-- The two splits of a reference find its parts. -/
theorem LooseRef.splits {ref pack scenario version : String}
    (h : LooseRef ref pack scenario version) :
    splitPair '@' ref.toList = .ok (pack.toList ++ '/' :: scenario.toList, version.toList) ∧
      splitPair '/' (pack.toList ++ '/' :: scenario.toList) =
        .ok (pack.toList, scenario.toList) := by
  obtain ⟨href, hpack, hscenario, -⟩ := h
  obtain ⟨hslash, hat⟩ := notMem_of_kebab hpack
  have hat' : '@' ∉ scenario.toList := (notMem_of_kebab hscenario).2
  constructor
  · refine splitPair_eq_ok_iff.mpr ⟨?_, by simp [hat, hat']⟩
    rw [href]
    simp
  · exact splitPair_eq_ok_iff.mpr ⟨rfl, hslash⟩

/-- The references that are parsed, and their parts. -/
theorem parseScenarioRef_eq_ok_iff {ref pack scenario version : String} :
    parseScenarioRef py ref = .ok (pack, scenario, version) ↔
      LooseRef ref pack scenario version := by
  unfold parseScenarioRef
  constructor
  · intro h
    split at h
    · cases h
    · obtain ⟨⟨head, v⟩, hversion, h⟩ := except_bind_eq_ok.mp h
      obtain ⟨⟨p, s⟩, hhead, h⟩ := except_bind_eq_ok.mp h
      obtain ⟨_, hpack, h⟩ := except_bind_eq_ok.mp h
      obtain ⟨_, hscenario, h⟩ := except_bind_eq_ok.mp h
      obtain ⟨_, hsemver, h⟩ := except_bind_eq_ok.mp h
      cases h
      rw [checkPart_eq_ok_iff, reMatch_kebab_iff] at hpack hscenario
      rw [checkPart_eq_ok_iff, reMatch_semver_iff] at hsemver
      obtain ⟨href, -⟩ := splitPair_eq_ok_iff.mp hversion
      obtain ⟨rfl, -⟩ := splitPair_eq_ok_iff.mp hhead
      unfold LooseRef
      simp only [String.toList_ofList]
      exact ⟨by rw [href]; simp, hpack, hscenario, hsemver⟩
  · intro h
    obtain ⟨hversion, hhead⟩ := h.splits
    obtain ⟨href, hpack, hscenario, hsemver⟩ := h
    rw [← reMatch_kebab_iff, ← checkPart_eq_ok_iff] at hpack hscenario
    rw [← reMatch_semver_iff, ← checkPart_eq_ok_iff] at hsemver
    rw [if_neg (by rw [href]; simp)]
    refine except_bind_eq_ok.mpr ⟨_, hversion, except_bind_eq_ok.mpr ⟨_, hhead, ?_⟩⟩
    refine except_bind_eq_ok.mpr ⟨(), hpack, except_bind_eq_ok.mpr ⟨(), hscenario, ?_⟩⟩
    refine except_bind_eq_ok.mpr ⟨(), hsemver, ?_⟩
    simp only [String.ofList_toList]
    rfl

/-- A split raises a `ValueError`. -/
theorem splitPair_raises (sep : Char) (s : List Char) (exc : PyErr)
    (h : splitPair sep s = .error exc) : ∃ msg code, exc = .valueError msg code := by
  unfold splitPair at h
  split at h
  · cases h
  · cases h
    exact ⟨_, _, rfl⟩

/-- A check raises a `ValueError`. -/
theorem checkPart_raises (pattern : RegularExpression Char) (message : String) (s : List Char)
    (exc : PyErr) (h : checkPart py pattern message s = .error exc) :
    ∃ msg code, exc = .valueError msg code := by
  unfold checkPart at h
  split at h
  · cases h
  · cases h
    exact ⟨_, _, rfl⟩

/-- What is not parsed is refused with a `ValueError`. -/
theorem parseScenarioRef_raises {ref : String} {exc : PyErr}
    (h : parseScenarioRef py ref = .error exc) : ∃ msg code, exc = .valueError msg code := by
  unfold parseScenarioRef at h
  split at h
  · cases h
    exact ⟨_, _, rfl⟩
  · refine except_bind_raises (splitPair_raises _ _) (fun (head, version) _ h => ?_) h
    refine except_bind_raises (splitPair_raises _ _) (fun (pack, scenario) _ h => ?_) h
    refine except_bind_raises (checkPart_raises _ _ _) (fun _ _ h => ?_) h
    refine except_bind_raises (checkPart_raises _ _ _) (fun _ _ h => ?_) h
    refine except_bind_raises (checkPart_raises _ _ _) (fun _ _ h => ?_) h
    cases h

end

/-! ### Paths -/

/-- The text is the name of one entry of a directory. -/
structure SafeComponent (x : String) : Prop where
  ne_empty : x ≠ ""
  ne_dot : x ≠ "."
  ne_dotDot : x ≠ ".."
  plain : ∀ c ∈ x.toList, c ≠ '/' ∧ c ≠ Char.ofNat 0

/-- A part is safe when what is before its line feed has no slash and no control characters, and
not dots alone. -/
theorem safeComponent_of_chomp {x : String}
    (hall : ∀ c ∈ chomp x.toList, 0x2D ≤ c.toNat ∧ c.toNat ≠ 0x2F)
    (hmem : ∃ c ∈ chomp x.toList, 0x30 ≤ c.toNat) : SafeComponent x := by
  obtain ⟨c, hc, hlarge⟩ := hmem
  have hx : c ∈ x.toList := mem_of_mem_chomp hc
  refine ⟨?_, ?_, ?_, fun d hd => ?_⟩
  · rintro rfl
    cases hx
  · rintro rfl
    obtain rfl : c = '.' := by simpa using hx
    exact absurd hlarge (by decide)
  · rintro rfl
    obtain rfl : c = '.' := by simpa using hx
    exact absurd hlarge (by decide)
  · rcases mem_chomp_or hd with hd | rfl
    · have hrange := hall d hd
      constructor <;> rintro rfl
      · exact absurd rfl hrange.2
      · exact absurd hrange.1 (by decide)
    · decide

/-- A name of slug characters stays in its directory. -/
theorem safeComponent_of_kebab {x : String} (h : Kebab (chomp x.toList)) : SafeComponent x := by
  refine safeComponent_of_chomp (fun c hc => ?_) ?_
  · have hrange := h.mem hc
    exact ⟨hrange.1, hrange.2.2.1⟩
  · obtain ⟨c, hc, hslug⟩ := h.1.exists_mem
    exact ⟨c, hc, (mem_charRange_of_slug hslug).1⟩

/-- A version stays in its directory. -/
theorem safeComponent_of_version {x : String} (h : Version decimals (chomp x.toList)) :
    SafeComponent x := by
  refine safeComponent_of_chomp (fun c hc => ?_) ?_
  · have hrange := h.mem hc
    exact ⟨Nat.le_of_succ_le hrange.1, hrange.2⟩
  · obtain ⟨c, hc, hdigit⟩ := h.1.exists_mem
    exact ⟨c, hc, (mem_charRange_of_decimal hdigit).1⟩

/-- A safe component is one component of the path it is put behind. -/
theorem joinPath_of_safe {path : List String} {x : String} (h : SafeComponent x) :
    joinPath path x = path ++ [x] := by
  have hslash : '/' ∉ x.toList := fun hmem => (h.plain _ hmem).1 rfl
  have hhead : x.toList.head? ≠ some '/' := fun heq => hslash (List.mem_of_mem_head? heq)
  have hempty : x.toList ≠ [] := fun heq => h.ne_empty (String.toList_eq_nil_iff.mp heq)
  have hdot : x.toList ≠ ['.'] := fun heq => h.ne_dot (String.toList_inj.mp heq)
  unfold joinPath
  rw [if_neg hhead, List.splitOn_eq_singleton hslash]
  simp [hempty, hdot]

/-- The files of a new scenario are in the directories of its parts. -/
theorem cmdNew_created {py : PyLib} {root : List String} {present : List String → Bool}
    {ref : String} {code : Nat} {files : List (List String)}
    (h : cmdNew py root present ref = .ok (code, files)) {file : List String}
    (hfile : file ∈ files) :
    ∃ pack scenario version, parseScenarioRef py ref = .ok (pack, scenario, version) ∧
      (file = root ++ [pack, "pack.yaml"] ∨
        file = root ++ [pack, scenario, version, "scenario.yaml"]) := by
  have hyaml : SafeComponent "pack.yaml" ∧ SafeComponent "scenario.yaml" :=
    ⟨⟨by decide, by decide, by decide, by simp⟩, by decide, by decide, by decide, by simp⟩
  unfold cmdNew at h
  cases hparse : parseScenarioRef py ref with
  | error exc =>
    obtain ⟨msg, code, rfl⟩ := parseScenarioRef_raises hparse
    rw [hparse] at h
    cases h
    cases hfile
  | ok parts =>
    obtain ⟨pack, scenario, version⟩ := parts
    obtain ⟨-, hpack, hscenario, hversion⟩ := parseScenarioRef_eq_ok_iff.mp hparse
    simp only [hparse, joinPath_of_safe (safeComponent_of_kebab hpack),
      joinPath_of_safe (safeComponent_of_kebab hscenario),
      joinPath_of_safe (safeComponent_of_version hversion), joinPath_of_safe hyaml.1,
      joinPath_of_safe hyaml.2] at h
    refine ⟨pack, scenario, version, rfl, ?_⟩
    split at h
    · cases h
      cases hfile
    · cases h
      rcases List.mem_append.mp hfile with hfile | hfile
      · split at hfile
        · cases hfile
        · exact .inl (by simpa using hfile)
      · exact .inr (by simpa using hfile)

/-! ### Exactness -/

/-- The references of the grammar are parsed into their parts, every other text is refused, and
the parts are safe and become components of the files that are created. -/
structure ParsedExactly (py : PyLib) (ref : String) : Prop where
  returns_iff : ∀ pack scenario version,
    parseScenarioRef py ref = .ok (pack, scenario, version) ↔ IsRef ref pack scenario version
  refused : (∀ pack scenario version, ¬IsRef ref pack scenario version) →
    RaisesValueError (parseScenarioRef py ref)
  safe : ∀ pack scenario version, parseScenarioRef py ref = .ok (pack, scenario, version) →
    SafeComponent pack ∧ SafeComponent scenario ∧ SafeComponent version
  created : ∀ root present code files, cmdNew py root present ref = .ok (code, files) →
    ∀ file ∈ files, ∃ pack scenario version,
      parseScenarioRef py ref = .ok (pack, scenario, version) ∧
        (file = root ++ [pack, "pack.yaml"] ∨
          file = root ++ [pack, scenario, version, "scenario.yaml"])

/-- The reference has no line feed and the decimal digits of ASCII alone, or is not of the
grammar even with the liberties. -/
def RefClear (ref : String) : Prop :=
  ∀ pack scenario version, LooseRef ref pack scenario version →
    '\n' ∉ ref.toList ∧ ∀ c ∈ ref.toList, c ∈ decimals → c ∈ asciiDigits

/-- A version is one of other digits, when it has these. -/
theorem Version.mono {digits digits' s : List Char} (hdot : '.' ∉ digits) (hdot' : '.' ∉ digits')
    (h : Version digits s) (hsub : ∀ c ∈ s, c ∈ digits → c ∈ digits') : Version digits' s := by
  obtain ⟨major, minor, patch, rfl, hruns⟩ := (version_iff hdot).mp h
  refine (version_iff hdot').mpr ⟨major, minor, patch, rfl, fun run hrun => ?_⟩
  refine ⟨(hruns run hrun).1, fun c hc => hsub c ?_ ((hruns run hrun).2 c hc)⟩
  simp only [List.mem_cons, List.not_mem_nil, or_false] at hrun
  rcases hrun with rfl | rfl | rfl <;> simp [hc]

/-- A reference in the strict form is one in the loose form. -/
theorem IsRef.loose {ref pack scenario version : String} (h : IsRef ref pack scenario version) :
    LooseRef ref pack scenario version := by
  obtain ⟨href, hpack, hscenario, hversion⟩ := h
  have hloose : Version decimals version.toList :=
    hversion.mono (by decide) dot_notMem fun c _ => mem_decimals_of_mem_charRange
  have hpackEnd : '\n' ∉ pack.toList := fun hmem => absurd (hpack.mem hmem).1 (by decide)
  have hscenarioEnd : '\n' ∉ scenario.toList := fun hmem =>
    absurd (hscenario.mem hmem).1 (by decide)
  have hversionEnd : '\n' ∉ version.toList := fun hmem => absurd (hloose.mem hmem).1 (by decide)
  refine ⟨href, ?_, ?_, ?_⟩
  · rwa [chomp_eq_self hpackEnd]
  · rwa [chomp_eq_self hscenarioEnd]
  · rwa [chomp_eq_self hversionEnd]

/-- A reference of the grammar has no line feed, and the decimal digits of ASCII alone. -/
theorem IsRef.mem {ref pack scenario version : String} (h : IsRef ref pack scenario version)
    {c : Char} (hc : c ∈ ref.toList) : 0x2D ≤ c.toNat ∧ c.toNat ≤ 0x7A := by
  obtain ⟨href, hpack, hscenario, hversion⟩ := h
  rw [href] at hc
  simp only [List.mem_append, List.mem_cons] at hc
  rcases hc with hc | rfl | hc | rfl | hc
  · have hrange := hpack.mem hc
    omega
  · decide
  · have hrange := hscenario.mem hc
    omega
  · decide
  · rcases hversion.1.mem hc with rfl | hdigit
    · decide
    · have hrange := mem_charRange_of_slug (List.mem_append_right lowerLetters hdigit)
      omega

/-- Without a line feed and other digits, the liberties make no difference. -/
theorem isRef_of_loose {ref pack scenario version : String}
    (h : LooseRef ref pack scenario version) (hline : '\n' ∉ ref.toList)
    (hdigits : ∀ c ∈ ref.toList, c ∈ decimals → c ∈ asciiDigits) :
    IsRef ref pack scenario version := by
  obtain ⟨href, hpack, hscenario, hversion⟩ := h
  rw [href] at hline hdigits
  simp only [List.mem_append, List.mem_cons, not_or] at hline
  rw [chomp_eq_self hline.1] at hpack
  rw [chomp_eq_self hline.2.2.1] at hscenario
  rw [chomp_eq_self hline.2.2.2.2] at hversion
  refine ⟨href, hpack, hscenario, hversion.mono dot_notMem (by decide) fun c hc => ?_⟩
  exact hdigits c (by simp [hc])

/-- References are parsed exactly, unless a line feed or a digit of another script is let
through. -/
theorem parsed_exactly_iff (py : PyLib) (ref : String) : ParsedExactly py ref ↔ RefClear ref := by
  constructor
  · intro h pack scenario version hloose
    have href := (h.returns_iff pack scenario version).mp (parseScenarioRef_eq_ok_iff.mpr hloose)
    refine ⟨fun hmem => absurd (href.mem hmem).1 (by decide), fun c hc hdecimal => ?_⟩
    have hrange := href.mem hc
    rcases mem_charRange_or_of_mem_decimals hdecimal with hascii | hlarge
    · exact hascii
    · omega
  · intro hclear
    have hiff : ∀ pack scenario version,
        parseScenarioRef py ref = .ok (pack, scenario, version) ↔
          IsRef ref pack scenario version := by
      intro pack scenario version
      rw [parseScenarioRef_eq_ok_iff]
      constructor
      · intro hloose
        obtain ⟨hline, hdigits⟩ := hclear pack scenario version hloose
        exact isRef_of_loose hloose hline hdigits
      · exact IsRef.loose
    refine ⟨hiff, fun hnone => ?_, fun pack scenario version hparse => ?_,
      fun root present code files hcmd file hfile => cmdNew_created hcmd hfile⟩
    · cases hparse : parseScenarioRef py ref with
      | error exc =>
        obtain ⟨msg, code, rfl⟩ := parseScenarioRef_raises hparse
        exact ⟨msg, code, rfl⟩
      | ok parts =>
        obtain ⟨pack, scenario, version⟩ := parts
        exact absurd ((hiff pack scenario version).mp hparse) (hnone pack scenario version)
    · obtain ⟨-, hpack, hscenario, hversion⟩ := parseScenarioRef_eq_ok_iff.mp hparse
      exact ⟨safeComponent_of_kebab hpack, safeComponent_of_kebab hscenario,
        safeComponent_of_version hversion⟩

/-- A line feed at the end is let through, and an Arabic digit. -/
theorem line_feed_is_parsed :
    parseScenarioRef .refusing "demo/basic@1.0.0\n" = .ok ("demo", "basic", "1.0.0\n") ∧
      parseScenarioRef .refusing "demo/basic@1.0.\u0663" =
        .ok ("demo", "basic", "1.0.\u0663") ∧
      ∀ ref ∈ ["demo/basic@1.0.0\n", "demo/basic@1.0.\u0663"],
        (∀ pack scenario version, ¬IsRef ref pack scenario version) ∧
          ¬ParsedExactly .refusing ref := by
  have hkebab : Kebab "demo".toList ∧ Kebab "basic".toList := by
    constructor <;> exact ⟨by decide, _, by decide, rfl⟩
  have hline : parseScenarioRef .refusing "demo/basic@1.0.0\n" =
      .ok ("demo", "basic", "1.0.0\n") :=
    parseScenarioRef_eq_ok_iff.mpr ⟨by decide, hkebab.1, hkebab.2, by decide, by decide⟩
  have hdigit : parseScenarioRef .refusing "demo/basic@1.0.\u0663" =
      .ok ("demo", "basic", "1.0.\u0663") :=
    parseScenarioRef_eq_ok_iff.mpr ⟨by decide, hkebab.1, hkebab.2, by decide, by decide⟩
  have hnone : ∀ ref ∈ ["demo/basic@1.0.0\n", "demo/basic@1.0.\u0663"],
      ∀ pack scenario version, ¬IsRef ref pack scenario version := by
    intro ref hmem pack scenario version h
    simp only [List.mem_cons, List.not_mem_nil, or_false] at hmem
    rcases hmem with rfl | rfl
    · exact absurd (h.mem (c := '\n') (by decide)).1 (by decide)
    · exact absurd (h.mem (c := '\u0663') (by decide)).2 (by decide)
  refine ⟨hline, hdigit, fun ref hmem => ⟨hnone ref hmem, fun h => ?_⟩⟩
  have href := hnone ref hmem
  simp only [List.mem_cons, List.not_mem_nil, or_false] at hmem
  rcases hmem with rfl | rfl
  · exact href _ _ _ ((h.returns_iff _ _ _).mp hline)
  · exact href _ _ _ ((h.returns_iff _ _ _).mp hdigit)

end AitpPlayground.Proofs.Cli
