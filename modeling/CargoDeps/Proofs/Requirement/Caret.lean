import CargoDeps.Proofs.Requirement.Bare
import CargoDeps.Proofs.Version.Precedence

namespace CargoDeps

/-!
# What bare blocks mean

A bare block of numbers is a half-open range: from its own numbers up to a release whose left-most
number that is not zero is one higher.  Where all given numbers are zero and not all three are
given, the range holds the numbers 0.0.0 alone, and a star is read as a number that is not given.  A
bare full version lies in its own range unless it is a pre-release of the very release that ends the
range, and then no version does.
-/

/-- Behind its left-most number that is not zero a version has only zeros. -/
def Version.IsRound (version : Version) : Prop :=
  (version.major ≠ 0 → version.minor = 0) ∧
    (version.major ≠ 0 ∨ version.minor ≠ 0 → version.patch = 0)

namespace Requirement

variable {source spelling : String} {body : List Char} {target version : Version}
  {numbers : Numbers}

/-! ### The range of a caret -/

theorem admits_atLeast_iff
    (noBuild : target.build = []) :
    (Bound.plain .atLeast target).admits version = true ↔ target.atMost version = true := by
  simp only [Bound.admits, Bound.plain, noBuild, List.isEmpty_nil, Bool.not_true,
    Bool.false_eq_true, if_false]
  rfl

/-- Below a release are just the versions of lower numbers, as its own pre-releases are kept out. -/
theorem admits_below_release_iff
    {limit : Version}
    (isRelease : limit.prerelease = [])
    (noBuild : limit.build = []) :
    (Bound.plain .below limit).admits version = true ↔ version.numbers < limit.numbers := by
  have sameNumbers : version.withoutBuild.numbers = version.numbers := rfl
  have limitIsRelease : limit.isPrerelease = false := by
    simp [Version.isPrerelease, isRelease]
  simp only [Bound.admits, Bound.plain, noBuild, List.isEmpty_nil, Bool.not_true,
    Bool.false_eq_true, if_false, Bool.and_eq_true, Bool.not_eq_true', Bound.keepsOut,
    Version.precedes_release_iff isRelease, sameNumbers, limitIsRelease, Bool.not_false,
    Bool.true_and, Bool.and_true, Bool.and_eq_false_iff, decide_eq_false_iff_not,
    ← Version.numbers_eq_iff_core_eq]
  constructor
  · rintro ⟨isRelease | otherNumbers, lower | ⟨same, isPrerelease⟩⟩
    · exact lower
    · rw [isRelease] at isPrerelease
      cases isPrerelease
    · exact lower
    · exact absurd same otherNumbers
  · intro lower
    exact ⟨Or.inr (ne_of_lt lower), Or.inl lower⟩

theorem isRelease_caretLimit
    (target : Version) :
    (Block.caretLimit target).prerelease = [] ∧ (Block.caretLimit target).build = [] := by
  unfold Block.caretLimit Version.nextMajor Version.nextMinor Version.nextPatch
  split_ifs <;> exact ⟨rfl, rfl⟩

theorem admits_caret_iff
    (noBuild : target.build = []) :
    (∀ clause ∈ Block.range target (Block.caretLimit target), clause.admits version = true) ↔
      target.atMost version = true ∧
        version.numbers < (Block.caretLimit target).numbers := by
  obtain ⟨isRelease, noLimitBuild⟩ := isRelease_caretLimit target
  rw [Block.range, List.forall_mem_cons, List.forall_mem_singleton]
  exact and_congr (admits_atLeast_iff noBuild) (admits_below_release_iff isRelease noLimitBuild)

theorem MakesCaret.readBlock_eq_ok_iff
    (makes : MakesCaret source body)
    {clauses : List Clause} :
    readBlock source.toList = .ok clauses ↔
      ∃ block,
        Block.read? ('^' :: body) = some (.ok block) ∧
          block.clauses (String.ofList ('^' :: body)) = .ok clauses := by
  rw [Requirement.readBlock_eq_ok_iff, makes.normal]

theorem MakesCaret.isAccepted_of_read
    (makes : MakesCaret source body)
    {block : Block}
    {clauses : List Clause}
    (read : Block.read? ('^' :: body) = some (.ok block))
    (meaning : block.clauses (String.ofList ('^' :: body)) = .ok clauses) :
    IsAccepted source :=
  makes.isAccepted_iff.mpr ⟨clauses, makes.readBlock_eq_ok_iff.mpr ⟨block, read, meaning⟩⟩

/-- A text that is read as a caret and a target is a requirement of the target's range. -/
theorem MakesCaret.admits_iff_of_read
    (makes : MakesCaret source body)
    (noBuild : target.build = [])
    {block : Block}
    (read : Block.read? ('^' :: body) = some (.ok block))
    (meaning : block.clauses (String.ofList ('^' :: body)) =
      .ok (Block.range target (Block.caretLimit target))) :
    Admits source version ↔
      target.atMost version = true ∧
        version.numbers < (Block.caretLimit target).numbers := by
  have readBlock := makes.readBlock_eq_ok_iff.mpr ⟨block, read, meaning⟩
  rw [makes.admits_iff, BlockAdmits, readBlock, ← admits_caret_iff noBuild]
  simp

/-! ### Numbers -/

namespace Numbers

/-- The release that ends the range of the numbers by their rule: the left-most of them that is not
zero is one higher, or else the last one. -/
def ceiling : Numbers → Version
  | one major => .release (major + 1) 0 0
  | two major minor => if major ≠ 0 then .release (major + 1) 0 0 else .release 0 (minor + 1) 0
  | three major minor patch =>
      if major ≠ 0 then
        .release (major + 1) 0 0
      else if minor ≠ 0 then
        .release 0 (minor + 1) 0
      else
        .release 0 0 (patch + 1)

/-- Fewer than three numbers, all of them zero. -/
def IsVague (numbers : Numbers) : Prop :=
  numbers.given.length < 3 ∧ ∀ n ∈ numbers.given, n = 0

instance (numbers : Numbers) : Decidable numbers.IsVague :=
  inferInstanceAs (Decidable (_ ∧ _))

/-- The release that ends the range of the numbers. -/
def limit (numbers : Numbers) : Version :=
  if numbers.IsVague then .release 0 0 1 else numbers.ceiling

/-- The numbers of a version begin with the given ones. -/
def Agrees (numbers : Numbers) (version : Version) : Prop :=
  numbers.given <+: [version.major, version.minor, version.patch]

instance (numbers : Numbers) (version : Version) : Decidable (numbers.Agrees version) :=
  inferInstanceAs (Decidable (_ <+: _))

/-- The last of the numbers is their left-most that is not zero. -/
def IsSteady (numbers : Numbers) : Prop :=
  (∀ n ∈ numbers.given.dropLast, n = 0) ∧ numbers.given.getLast? ≠ some 0

theorem clauses_block
    (numbers : Numbers)
    (source : String) :
    numbers.block.clauses source =
      .ok (Block.range numbers.target (Block.caretLimit numbers.target)) := by
  cases numbers <;> rfl

theorem caretLimit_target
    (numbers : Numbers) :
    Block.caretLimit numbers.target = numbers.limit := by
  cases numbers with
  | one major =>
      by_cases isZero : major = 0 <;>
        simp [Block.caretLimit, target, limit, IsVague, ceiling, given, isZero,
          Version.nextMajor, Version.nextPatch, Version.release, Version.isPrerelease]
  | two major minor =>
      by_cases isZero : major = 0 <;> by_cases minorIsZero : minor = 0 <;>
        simp [Block.caretLimit, target, limit, IsVague, ceiling, given, isZero, minorIsZero,
          Version.nextMajor, Version.nextMinor, Version.nextPatch, Version.release,
          Version.isPrerelease]
  | three major minor patch =>
      by_cases isZero : major = 0 <;> by_cases minorIsZero : minor = 0 <;>
        simp [Block.caretLimit, target, limit, IsVague, ceiling, given, isZero, minorIsZero,
          Version.nextMajor, Version.nextMinor, Version.nextPatch, Version.release,
          Version.isPrerelease]

theorem isAccepted_iff
    (isSpelling : spelling ∈ numbers.spellings) :
    IsAccepted spelling ↔ numbers.IsShort := by
  obtain ⟨body, isBody, makes⟩ := makesCaret_of_mem_spellings isSpelling
  rw [makes.isAccepted_iff]
  simp only [makes.readBlock_eq_ok_iff, read_eq_ok_iff isBody]
  constructor
  · rintro ⟨_, _, ⟨short, -⟩, -⟩
    exact short
  · intro short
    exact ⟨_, numbers.block, ⟨short, rfl⟩, clauses_block numbers _⟩

/-- A release meets numbers that are short enough just when it lies in their range. -/
theorem admits_iff
    (isSpelling : spelling ∈ numbers.spellings)
    (short : numbers.IsShort)
    (isRelease : version.prerelease = []) :
    Admits spelling version ↔
      numbers.target.numbers ≤ version.numbers ∧ version.numbers < numbers.limit.numbers := by
  obtain ⟨body, isBody, makes⟩ := makesCaret_of_mem_spellings isSpelling
  have noBuild : numbers.target.build = [] := by
    cases numbers <;> rfl
  rw [makes.admits_iff_of_read noBuild ((read_eq_ok_iff isBody).mpr ⟨short, rfl⟩)
    (clauses_block numbers _), Version.atMost_release_iff isRelease, caretLimit_target]

/-- The range of the numbers ends at the release of their rule if and only if they are not vague. -/
theorem range_iff_ceiling_iff :
    (∀ version : Version, version.prerelease = [] →
      (numbers.target.numbers ≤ version.numbers ∧ version.numbers < numbers.limit.numbers ↔
        numbers.target.numbers ≤ version.numbers ∧
          version.numbers < numbers.ceiling.numbers)) ↔
      ¬ numbers.IsVague := by
  constructor
  · intro same vague
    obtain ⟨notFull, zeros⟩ := vague
    have next := same (.release 0 0 1) rfl
    rw [limit, if_pos ⟨notFull, zeros⟩, ← not_lt, Version.numbers_lt_iff, Version.numbers_lt_iff,
      Version.numbers_lt_iff] at next
    cases numbers with
    | one major =>
        simp_all [given, target, ceiling, Version.release]
    | two major minor =>
        simp_all [given, target, ceiling, Version.release]
    | three major minor patch =>
        simp [given] at notFull
  · intro notVague version _
    rw [limit, if_neg notVague]

theorem range_one_iff
    (major : Nat) :
    (one major).target.numbers ≤ version.numbers ∧
        version.numbers < (one major).limit.numbers ↔
      version.major = major ∧ (major = 0 → version.minor = 0 ∧ version.patch = 0) := by
  rw [← not_lt, Version.numbers_lt_iff, Version.numbers_lt_iff]
  by_cases isZero : major = 0
  · simp [target, limit, IsVague, given, Version.release, isZero]
  · simp [target, limit, IsVague, ceiling, given, Version.release, isZero]
    omega

theorem range_two_iff
    (major minor : Nat) :
    (two major minor).target.numbers ≤ version.numbers ∧
        version.numbers < (two major minor).limit.numbers ↔
      version.major = major ∧
        (major ≠ 0 → minor ≤ version.minor) ∧
          (major = 0 → version.minor = minor ∧ (minor = 0 → version.patch = 0)) := by
  rw [← not_lt, Version.numbers_lt_iff, Version.numbers_lt_iff]
  by_cases isZero : major = 0 <;> by_cases minorIsZero : minor = 0 <;>
    simp [target, limit, IsVague, ceiling, given, Version.release, isZero, minorIsZero] <;>
    omega

/-- The versions in the range of one or two numbers are just those that agree with them if and only
if the last of them is the left-most that is not zero. -/
theorem range_iff_agrees_iff
    (notFull : numbers.given.length < 3) :
    (∀ version : Version, version.prerelease = [] →
      (numbers.target.numbers ≤ version.numbers ∧ version.numbers < numbers.limit.numbers ↔
        numbers.Agrees version)) ↔
      numbers.IsSteady := by
  cases numbers with
  | one major =>
      have agrees : ∀ version, (one major).Agrees version ↔ version.major = major := by
        simp [Agrees, given, List.cons_prefix_cons, eq_comm]
      simp only [range_one_iff, agrees]
      constructor
      · intro exact
        have other := exact (.release major 1 0) rfl
        simpa [IsSteady, given, Version.release] using other
      · intro steady version _
        have notZero : major ≠ 0 := by simpa [IsSteady, given] using steady
        simp [notZero]
  | two major minor =>
      have agrees : ∀ version, (two major minor).Agrees version ↔
          version.major = major ∧ version.minor = minor := by
        simp [Agrees, given, List.cons_prefix_cons, eq_comm]
      simp only [range_two_iff, agrees]
      constructor
      · intro exact
        have isZero : major = 0 := by
          simpa [Version.release] using exact (.release major (minor + 1) 0) rfl
        have notZero : minor ≠ 0 := by
          simpa [Version.release, isZero] using exact (.release major minor 1) rfl
        simp [IsSteady, given, isZero, notZero]
      · intro steady version _
        obtain ⟨isZero, notZero⟩ : major = 0 ∧ minor ≠ 0 := by
          simpa [IsSteady, given] using steady
        simp [isZero, notZero]
  | three major minor patch =>
      exact absurd notFull (by simp [given])

end Numbers

/-! ### Full versions -/

theorem numbers_lt_caretLimit_iff :
    version.numbers < (Block.caretLimit version).numbers ↔
      version.prerelease = [] ∨ ¬ version.IsRound := by
  rw [Version.numbers_lt_iff]
  unfold Block.caretLimit Version.nextMajor Version.nextMinor Version.nextPatch Version.IsRound
  by_cases isRelease : version.prerelease = []
  · simp only [Version.isPrerelease, isRelease, List.isEmpty_nil, Bool.not_true,
      Bool.false_eq_true, false_and, if_false, true_or, iff_true]
    split_ifs <;> simp only [Version.release, true_and] <;> omega
  · have isPrerelease : version.isPrerelease = true := by
      simpa [Version.isPrerelease] using isRelease
    simp only [isPrerelease, isRelease, true_and, if_true, false_or]
    split_ifs <;> simp only [Version.release, Version.core, true_and] <;> omega

theorem numbers_caretLimit_le_of_round
    (isPrerelease : version.prerelease ≠ [])
    (isRound : version.IsRound) :
    (Block.caretLimit version).numbers ≤ version.numbers := by
  rw [← not_lt, numbers_lt_caretLimit_iff]
  rintro (isRelease | notRound)
  · exact isPrerelease isRelease
  · exact notRound isRound

theorem clauses_full
    {prerelease : List Char}
    (made : Version.ofParts version.major version.minor version.patch prerelease [] = .ok version)
    (source : String) :
    (Block.mk .caret (some version.major) (some version.minor) (some version.patch)
        (if prerelease = [] then none else some prerelease) none).clauses source =
      .ok (Block.range version (Block.caretLimit version)) := by
  have text : (if prerelease = [] then none else some prerelease).getD [] = prerelease := by
    split
    · next empty =>
        exact empty.symm
    · rfl
  simp [Block.clauses, Block.target, Block.isFull, Block.clausesFor, text, made]

/-- A caret takes no build part, so what is read behind it are ASCII characters other than the plus
sign. -/
theorem isPartChar_of_readBlock
    (makes : MakesCaret source body)
    {clauses : List Clause}
    (read : readBlock source.toList = .ok clauses) :
    ∀ c ∈ body, IsPartChar c := by
  obtain ⟨block, readBlock, meaning⟩ := makes.readBlock_eq_ok_iff.mp read
  obtain ⟨_, -, -, build⟩ := Block.clausesFor_of_clauses meaning
  obtain ⟨isCaret, -⟩ := Block.build_of_read readBlock
  rcases build with noBuild | allowsBuild
  · exact Block.isPartChar_of_read readBlock noBuild
  · rw [isCaret] at allowsBuild
    cases allowsBuild

/-- A text of ASCII characters without a build part is read as a caret and its version. -/
theorem exists_read_full
    (parsed : Version.parse source = .ok version)
    (ascii : ∀ c ∈ source.toList, c.toNat < 0x80)
    (noPlus : '+' ∉ source.toList) :
    ∃ body block,
      MakesCaret source body ∧
        Block.read? ('^' :: body) = some (.ok block) ∧
          block.clauses (String.ofList ('^' :: body)) =
            .ok (Block.range version (Block.caretLimit version)) ∧
            version.build = [] := by
  obtain ⟨major, minor, patch, prerelease, build, ending, shape, isEnding, spells⟩ :=
    Version.exists_spells_of_parse parsed
  have makes := makesCaret_of_bare (isBare_of_spells spells) shape isEnding
  rw [shape] at ascii noPlus
  obtain rfl : build = [] := by
    by_contra hasBuild
    exact noPlus (by simp [Version.spelled, Version.marked, hasBuild])
  have read := read_spelled spells fun c member => ascii c (List.mem_append_left _ member)
  exact ⟨_, _, makes, read, clauses_full spells.parts _, Version.build_of_ofParts spells.parts⟩

theorem isAccepted_full_iff
    (parsed : Version.parse source = .ok version) :
    IsAccepted source ↔ (∀ c ∈ source.toList, c.toNat < 0x80) ∧ '+' ∉ source.toList := by
  constructor
  · intro accepted
    obtain ⟨major, minor, patch, prerelease, build, ending, shape, isEnding, spells⟩ :=
      Version.exists_spells_of_parse parsed
    have makes := makesCaret_of_bare (isBare_of_spells spells) shape isEnding
    obtain ⟨clauses, read⟩ := makes.isAccepted_iff.mp accepted
    have parts := isPartChar_of_readBlock makes read
    have plainEnding : ∀ c ∈ ending, c.toNat < 0x80 ∧ c ≠ '+' := by
      rcases isEnding with rfl | rfl
      · exact List.forall_mem_nil _
      · exact List.forall_mem_singleton.mpr (by decide)
    rw [shape, List.forall_mem_append, List.mem_append, not_or]
    exact ⟨⟨fun c member => (parts c member).ascii, fun c member => (plainEnding c member).1⟩,
      fun inside => (parts '+' inside).solid.2.2 rfl, fun inside => (plainEnding '+' inside).2 rfl⟩
  · rintro ⟨ascii, noPlus⟩
    obtain ⟨_, _, makes, read, meaning, -⟩ := exists_read_full parsed ascii noPlus
    exact makes.isAccepted_of_read read meaning

/-- The bare text of a full version, if it is a requirement, is met just by the versions in that
version's range. -/
theorem admits_full_iff
    (accepted : IsAccepted source)
    (parsed : Version.parse source = .ok version)
    {other : Version} :
    Admits source other ↔
      version.atMost other = true ∧
        other.numbers < (Block.caretLimit version).numbers := by
  obtain ⟨ascii, noPlus⟩ := (isAccepted_full_iff parsed).mp accepted
  obtain ⟨_, _, makes, read, meaning, noBuild⟩ := exists_read_full parsed ascii noPlus
  exact makes.admits_iff_of_read noBuild read meaning

/-- A full version meets its own bare text unless it is a pre-release of a round version; then no
version does. -/
theorem admits_full_itself
    (accepted : IsAccepted source)
    (parsed : Version.parse source = .ok version) :
    (Admits source version ↔ version.prerelease = [] ∨ ¬ version.IsRound) ∧
      (version.prerelease ≠ [] → version.IsRound → ∀ other, ¬ Admits source other) := by
  constructor
  · rw [admits_full_iff accepted parsed, numbers_lt_caretLimit_iff]
    simp [Version.atMost_self]
  · intro isPrerelease isRound other
    rw [admits_full_iff accepted parsed]
    rintro ⟨notBelow, below⟩
    have limitReached := numbers_caretLimit_le_of_round isPrerelease isRound
    exact absurd (lt_of_lt_of_le below limitReached)
      (not_lt.mpr (Version.numbers_le_of_atMost notBelow))

/-! ### All bare blocks -/

/-- Numbers that are short enough are a requirement, bare, behind a caret or with a star for a number
that is not given, and releases meet it from the numbers up to their limit.  That is the release
of the documented rule if and only if the numbers are not vague.  With a star the requirement means
agreement with the numbers if and only if the last of them is the left-most that is not zero.  The
bare text of a full version is a requirement if and only if it is ASCII and has no build part.  The
version meets it if and only if it is no pre-release of a round version; in that case nothing does. -/
theorem meaning_of_bare_blocks
    (numbers : Numbers)
    (source : String)
    (full : Version) :
    (∀ spelling ∈ numbers.spellings,
      (IsAccepted spelling ↔ numbers.IsShort) ∧
        (numbers.IsShort →
          (∀ version : Version, version.prerelease = [] →
            (Admits spelling version ↔
              numbers.target.numbers ≤ version.numbers ∧
                version.numbers < numbers.limit.numbers)) ∧
            ((∀ version : Version, version.prerelease = [] →
              (Admits spelling version ↔
                numbers.target.numbers ≤ version.numbers ∧
                  version.numbers < numbers.ceiling.numbers)) ↔
              ¬ numbers.IsVague))) ∧
      (numbers.IsShort → numbers.given.length < 3 →
        ((∀ version : Version, version.prerelease = [] →
          (Admits (numbers.text ++ ".*") version ↔ numbers.Agrees version)) ↔
          numbers.IsSteady)) ∧
      (Version.parse source = .ok full →
        (IsAccepted source ↔ (∀ c ∈ source.toList, c.toNat < 0x80) ∧ '+' ∉ source.toList) ∧
          (IsAccepted source →
            (Admits source full ↔ full.prerelease = [] ∨ ¬ full.IsRound) ∧
              (full.prerelease ≠ [] → full.IsRound → ∀ version, ¬ Admits source version))) := by
  refine ⟨?_, ?_, ?_⟩
  · intro spelling isSpelling
    refine ⟨Numbers.isAccepted_iff isSpelling, ?_⟩
    intro short
    have range : ∀ version : Version, version.prerelease = [] →
        (Admits spelling version ↔
          numbers.target.numbers ≤ version.numbers ∧
            version.numbers < numbers.limit.numbers) :=
      fun version isRelease => Numbers.admits_iff isSpelling short isRelease
    refine ⟨range, ?_⟩
    rw [← Numbers.range_iff_ceiling_iff]
    exact forall₂_congr fun version isRelease => by rw [range version isRelease]
  · intro short notFull
    have isSpelling : numbers.text ++ ".*" ∈ numbers.spellings := by
      simp [Numbers.spellings, notFull]
    rw [← Numbers.range_iff_agrees_iff notFull]
    exact forall₂_congr fun version isRelease => by
      rw [Numbers.admits_iff isSpelling short isRelease]
  · intro parsed
    exact ⟨isAccepted_full_iff parsed, fun accepted => admits_full_itself accepted parsed⟩

/-- Two numbers hold the releases of the same major number from there on, and a pre-release of a
version that is not round meets its own text. -/
theorem meaning_of_two_numbers :
    (Numbers.two 1 2).IsShort ∧
      "1.2" ∈ (Numbers.two 1 2).spellings ∧
        Admits "1.2" (.release 1 4 0) ∧
          ¬ Admits "1.2" (.release 2 0 0) ∧
            Admits "1.2.0-beta" ⟨1, 2, 0, [.alphanumeric "beta"], []⟩ := by
  have short : (Numbers.two 1 2).IsShort := by decide
  have isSpelling : "1.2" ∈ (Numbers.two 1 2).spellings := by decide
  have parsed :
      Version.parse "1.2.0-beta" = .ok ⟨1, 2, 0, [.alphanumeric "beta"], []⟩ := by
    decide
  obtain ⟨bare, -, fullText⟩ := meaning_of_bare_blocks (.two 1 2) "1.2.0-beta"
    ⟨1, 2, 0, [.alphanumeric "beta"], []⟩
  have range := ((bare "1.2" isSpelling).2 short).1
  refine ⟨short, isSpelling, ?_, ?_, ?_⟩
  · rw [range (.release 1 4 0) rfl, Numbers.range_two_iff]
    decide
  · rw [range (.release 2 0 0) rfl, Numbers.range_two_iff]
    decide
  · obtain ⟨accepts, itself⟩ := fullText parsed
    have accepted : IsAccepted "1.2.0-beta" := accepts.mpr ⟨by simp, by simp⟩
    rw [(itself accepted).1]
    exact Or.inr (by simp [Version.IsRound])

/-- A star holds more than the versions that agree with its numbers, a zero alone holds less than the
zero major versions, and a pre-release of a round version does not meet its own text. -/
theorem bare_blocks_astray :
    (Admits "1.2.*" (.release 1 3 0) ∧ ¬ (Numbers.two 1 2).Agrees (.release 1 3 0)) ∧
      ((Numbers.one 0).target.numbers ≤ (Version.release 0 5 0).numbers ∧
        (Version.release 0 5 0).numbers < (Numbers.one 0).ceiling.numbers ∧
          ¬ Admits "0" (.release 0 5 0)) ∧
        Version.parse "1.0.0-alpha" = .ok ⟨1, 0, 0, [.alphanumeric "alpha"], []⟩ ∧
          ¬ Admits "1.0.0-alpha" ⟨1, 0, 0, [.alphanumeric "alpha"], []⟩ := by
  refine ⟨by decide, ⟨?_, ?_, by decide⟩, by decide, by decide⟩
  · rw [← not_lt, Version.numbers_lt_iff]
    decide
  · rw [Version.numbers_lt_iff]
    decide

end Requirement

end CargoDeps
