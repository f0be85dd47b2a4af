import CargoDeps.Proofs.Requirement.Conjunction
import CargoDeps.Proofs.Version.Reader

namespace CargoDeps.Requirement

/-!
# Bare blocks

A block that begins with a digit and the same block behind a caret are read alike, as a caret and
then the parts that the text has: numerals between full stops, a star, and a pre-release part.
-/

variable {source : String} {body ending rest : List Char} {version : Version}

/-! ### A text of one bare block -/

/-- A digit of some script, and nothing that ends or separates blocks. -/
structure IsBare (body : List Char) : Prop where
  begins : ∃ c rest, body = c :: rest ∧ Text.isDigit c = true
  solid : ∀ c ∈ body, Text.isBlank c = false ∧ c ≠ ','
  closed : body.getLast? ≠ some '+'

/-- A text has no block but one that is made into a caret and a bare body. -/
structure MakesCaret (source : String) (body : List Char) : Prop where
  single : blocks source = [Text.trim source.toList]
  normal : normalBlock source.toList = '^' :: body
  closed : IsClosed source

/-- A block that is trimmed to a bare body, or to a caret and one, makes a caret. -/
theorem makesCaret_of_trim
    (noComma : ',' ∉ source.toList)
    (bare : IsBare body)
    (trimmed : Text.trim source.toList = body ∨ Text.trim source.toList = '^' :: body) :
    MakesCaret source body := by
  obtain ⟨first, more, shape, isDigit⟩ := bare.begins
  have single : blocks source = [Text.trim source.toList] := by
    rw [blocks, List.splitOn_eq_singleton noComma, List.map_singleton]
  have sameEnd : (Text.trim source.toList).getLast? = body.getLast? := by
    rcases trimmed with trimmed | trimmed
    · rw [trimmed]
    · rw [trimmed, shape, List.getLast?_cons_cons]
  refine ⟨single, ?_, ?_⟩
  · rcases trimmed with trimmed | trimmed
    · simp only [normalBlock, trimmed, shape, isDigit, if_true]
    · have notDigit : Text.isDigit '^' = false := by decide
      simp [normalBlock, trimmed, notDigit]
  · intro block isBlock
    rw [single, List.mem_singleton] at isBlock
    rw [isBlock, sameEnd]
    exact bare.closed

theorem makesCaret_of_bare
    (bare : IsBare body)
    (shape : source.toList = body ++ ending)
    (isEnding : ending = [] ∨ ending = ['\n']) :
    MakesCaret source body := by
  have noComma : ',' ∉ source.toList := by
    rw [shape, List.mem_append]
    rintro (inBody | inEnding)
    · exact (bare.solid ',' inBody).2 rfl
    · rcases isEnding with rfl | rfl
      · cases inEnding
      · revert inEnding
        decide
  have blankEnding : Text.IsBlank ending := by
    rcases isEnding with rfl | rfl
    · exact List.forall_mem_nil _
    · exact List.forall_mem_singleton.mpr (by decide)
  have trimmed : Text.trim source.toList = body :=
    Text.trim_eq_iff.mpr ⟨[], ending, shape, List.forall_mem_nil _, blankEnding,
      fun c isHead => (bare.solid c (List.mem_of_head? isHead)).1,
      fun c isLast => (bare.solid c (List.mem_of_getLast? isLast)).1⟩
  exact makesCaret_of_trim noComma bare (Or.inl trimmed)

theorem makesCaret_of_caret
    (bare : IsBare body)
    (shape : source.toList = '^' :: body) :
    MakesCaret source body := by
  have solid : ∀ c ∈ source.toList, Text.isBlank c = false ∧ c ≠ ',' := by
    rw [shape, List.forall_mem_cons]
    exact ⟨by decide, bare.solid⟩
  have trimmed : Text.trim source.toList = source.toList :=
    Text.trim_of_solid (fun c isHead => (solid c (List.mem_of_head? isHead)).1)
      (fun c isLast => (solid c (List.mem_of_getLast? isLast)).1)
  have noComma : ',' ∉ source.toList := fun inside => (solid ',' inside).2 rfl
  exact makesCaret_of_trim noComma bare (Or.inr (trimmed.trans shape))

theorem MakesCaret.isAccepted_iff
    (makes : MakesCaret source body) :
    IsAccepted source ↔ ∃ clauses, readBlock source.toList = .ok clauses := by
  rw [Requirement.isAccepted_iff, makes.single]
  simp [readBlock_trim]

theorem MakesCaret.admits_iff
    (makes : MakesCaret source body) :
    Admits source version ↔ BlockAdmits source.toList version := by
  rw [admits_iff_of_closed makes.closed, makes.single]
  simp [BlockAdmits, readBlock_trim]

/-! ### Reading its parts -/

namespace Block

theorem number_of_numeral
    {digits : List Char}
    (isNumeral : Text.IsNumeral digits)
    (ends : ∀ c ∈ rest.head?, c.isDigit = false) :
    number? (digits ++ rest) = some ((Text.readNumber digits).map some, rest) := by
  have taken := isNumeral.takeWhile_append ends
  have left := isNumeral.dropWhile_append ends
  obtain ⟨notEmpty, allDigits, noLeadingZero⟩ := isNumeral
  cases digits with
  | nil =>
      exact absurd rfl notEmpty
  | cons first more =>
      have isDigit : first.isDigit = true := allDigits first List.mem_cons_self
      by_cases isZero : first = '0'
      · obtain rfl : more = [] := by
          simpa [Version.hasLeadingZero, isZero] using noLeadingZero
        rw [isZero]
        rfl
      · unfold number?
        split
        · next others isStar =>
            obtain ⟨rfl, -⟩ := List.cons.inj isStar
            cases isDigit
        · next others startsZero =>
            exact absurd (List.cons.inj startsZero).1 isZero
        · rw [taken, left]

theorem furtherNumber_of_numeral
    {digits : List Char}
    (isNumeral : Text.IsNumeral digits)
    (ends : ∀ c ∈ rest.head?, c.isDigit = false) :
    furtherNumber? ('.' :: (digits ++ rest)) = some ((Text.readNumber digits).map some, rest) :=
  number_of_numeral isNumeral ends

/-- A block behind a caret, of parts that are read one after another to the end of the text. -/
theorem read_caret_eq_ok_iff
    {body afterMajor afterMinor afterPatch : List Char}
    {major minor patch : Number}
    {prerelease : Option (List Char)}
    (readMajor : number? body = some (major, afterMajor))
    (readMinor : furtherNumber? afterMajor = some (minor, afterMinor))
    (readPatch : furtherNumber? afterMinor = some (patch, afterPatch))
    (readPrerelease : part '-' afterPatch = (prerelease, []))
    {block : Block} :
    read? ('^' :: body) = some (.ok block) ↔
      ∃ majorNumber minorNumber patchNumber,
        major = .ok majorNumber ∧
          minor = .ok minorNumber ∧
            patch = .ok patchNumber ∧
              block = ⟨.caret, majorNumber, minorNumber, patchNumber, prerelease, none⟩ := by
  have noBuild : part '+' [] = (none, []) := rfl
  have reading :
      read? ('^' :: body) =
        some (do return ⟨.caret, ← major, ← minor, ← patch, prerelease, none⟩) := by
    simp [read?, readOperator, readMajor, readMinor, readPatch, readPrerelease, noBuild]
  rw [reading, Option.some.injEq]
  simp only [bind_eq_ok_iff, pure, Except.pure, Except.ok.injEq, exists_and_left,
    @eq_comm _ _ block]

theorem hyphen_part_marked
    {prerelease : List Char}
    (identifierPart : ∀ c ∈ prerelease, Version.isIdentifierPart c = true) :
    part '-' (Version.marked '-' prerelease) =
      (if prerelease = [] then none else some prerelease, []) := by
  unfold Version.marked
  split
  · rfl
  · simp [part, List.takeWhile_eq_self_iff.mpr identifierPart,
      List.dropWhile_eq_nil_iff.mpr identifierPart]

end Block

/-! ### Numbers and a star -/

/-- One, two or three numbers of a block. -/
inductive Numbers
  | one (major : Nat)
  | two (major minor : Nat)
  | three (major minor patch : Nat)
deriving DecidableEq, Repr

namespace Numbers

/-- The numbers in their order. -/
def given : Numbers → List Nat
  | one major => [major]
  | two major minor => [major, minor]
  | three major minor patch => [major, minor, patch]

/-- The numbers with full stops between them. -/
def text (numbers : Numbers) : String :=
  ".".intercalate (numbers.given.map toString)

/-- The bare block of the numbers, the same behind a caret, and with a star for a number that is not
given. -/
def spellings (numbers : Numbers) : List String :=
  [numbers.text, "^" ++ numbers.text] ++
    if numbers.given.length < 3 then [numbers.text ++ ".*"] else []

/-- Each number has few enough digits to be read. -/
def IsShort (numbers : Numbers) : Prop :=
  ∀ n ∈ numbers.given, (toString n).length ≤ Text.digitLimit

instance (numbers : Numbers) : Decidable numbers.IsShort :=
  inferInstanceAs (Decidable (∀ n ∈ numbers.given, (toString n).length ≤ Text.digitLimit))

/-- The numbers, and zero for those not given. -/
def target : Numbers → Version
  | one major => .release major 0 0
  | two major minor => .release major minor 0
  | three major minor patch => .release major minor patch

/-- The numbers behind a caret. -/
def block : Numbers → Block
  | one major => ⟨.caret, some major, none, none, none, none⟩
  | two major minor => ⟨.caret, some major, some minor, none, none, none⟩
  | three major minor patch => ⟨.caret, some major, some minor, some patch, none, none⟩

end Numbers

theorem IsPartChar.solid
    {c : Char}
    (isPart : IsPartChar c) :
    Text.isBlank c = false ∧ c ≠ ',' ∧ c ≠ '+' := by
  rcases isPart with isPart | rfl
  · simp only [Version.isIdentifierPart, Bool.or_eq_true, decide_eq_true_eq] at isPart
    rcases isPart with (isAlphanum | rfl) | rfl
    · have range := Text.toNat_of_isAlphanum isAlphanum
      refine ⟨Text.isBlank_of_visible (by omega), ?_, ?_⟩
      · rintro rfl
        cases isAlphanum
      · rintro rfl
        cases isAlphanum
    · decide
    · decide
  · decide

theorem IsPartChar.ascii
    {c : Char}
    (isPart : IsPartChar c) :
    c.toNat < 0x80 := by
  rcases isPart with isPart | rfl
  · simp only [Version.isIdentifierPart, Bool.or_eq_true, decide_eq_true_eq] at isPart
    rcases isPart with (isAlphanum | rfl) | rfl
    · have range := Text.toNat_of_isAlphanum isAlphanum
      omega
    · decide
    · decide
  · decide

theorem isBare_of_numeral
    {digits : List Char}
    (isNumeral : Text.IsNumeral digits)
    (consists : ∀ c ∈ rest, IsPartChar c) :
    IsBare (digits ++ rest) := by
  have parts : ∀ c ∈ digits ++ rest, IsPartChar c :=
    List.forall_mem_append.mpr
      ⟨fun c member => Block.isPartChar_of_isDigit c (isNumeral.allDigits c member), consists⟩
  refine ⟨?_, fun c member => ⟨(parts c member).solid.1, (parts c member).solid.2.1⟩, ?_⟩
  · cases digits with
    | nil =>
        exact absurd rfl isNumeral.notEmpty
    | cons first more =>
        have isDigit := Text.isDecimal_of_isDigit (isNumeral.allDigits first List.mem_cons_self)
        exact ⟨first, more ++ rest, rfl, by simp [Text.isDigit, isDigit]⟩
  · intro endsOpen
    exact (parts '+' (List.mem_of_getLast? endsOpen)).solid.2.2 rfl

namespace Numbers

theorem read_numeral_eq_ok_iff
    {n : Nat}
    {number : Option Nat} :
    (Text.readNumber (Text.numeral n)).map some = .ok number ↔
      (toString n).length ≤ Text.digitLimit ∧ number = some n := by
  simp only [map_eq_ok_iff, Text.readNumber_numeral_eq_ok_iff]
  constructor
  · rintro ⟨_, ⟨short, rfl⟩, rfl⟩
    exact ⟨short, rfl⟩
  · rintro ⟨short, rfl⟩
    exact ⟨n, ⟨short, rfl⟩, rfl⟩

/-- The characters of the numbers, and those with a star behind them. -/
inductive IsBody : Numbers → List Char → Prop
  | plain (numbers : Numbers) : IsBody numbers numbers.text.toList
  | wild {numbers : Numbers} (notFull : numbers.given.length < 3) :
      IsBody numbers (numbers.text.toList ++ ['.', '*'])

theorem toList_text_one
    (major : Nat) :
    (one major).text.toList = Text.numeral major ++ [] := by
  simp [text, given, Text.numeral]

theorem toList_text_two
    (major minor : Nat) :
    (two major minor).text.toList =
      Text.numeral major ++ '.' :: (Text.numeral minor ++ []) := by
  simp [text, given, Text.numeral]

theorem toList_text_three
    (major minor patch : Nat) :
    (three major minor patch).text.toList =
      Text.numeral major ++
        '.' :: (Text.numeral minor ++ '.' :: (Text.numeral patch ++ [])) := by
  simp [text, given, Text.numeral]

theorem read_eq_ok_iff
    {numbers : Numbers}
    (isBody : numbers.IsBody body)
    {block : Block} :
    Block.read? ('^' :: body) = some (.ok block) ↔ numbers.IsShort ∧ block = numbers.block := by
  have isNumeral := Text.isNumeral_numeral
  cases isBody with
  | plain =>
      cases numbers with
      | one major =>
          rw [toList_text_one, Block.read_caret_eq_ok_iff
            (Block.number_of_numeral (isNumeral major) (by simp)) rfl rfl rfl]
          simp [read_numeral_eq_ok_iff, IsShort, given, Numbers.block]
      | two major minor =>
          rw [toList_text_two, Block.read_caret_eq_ok_iff
            (Block.number_of_numeral (isNumeral major) (by simp))
            (Block.furtherNumber_of_numeral (isNumeral minor) (by simp)) rfl rfl]
          simp [read_numeral_eq_ok_iff, IsShort, given, Numbers.block, and_assoc]
      | three major minor patch =>
          rw [toList_text_three, Block.read_caret_eq_ok_iff
            (Block.number_of_numeral (isNumeral major) (by simp))
            (Block.furtherNumber_of_numeral (isNumeral minor) (by simp))
            (Block.furtherNumber_of_numeral (isNumeral patch) (by simp)) rfl]
          simp [read_numeral_eq_ok_iff, IsShort, given, Numbers.block, and_assoc]
  | wild notFull =>
      cases numbers with
      | one major =>
          rw [toList_text_one, List.append_nil, Block.read_caret_eq_ok_iff
            (Block.number_of_numeral (isNumeral major) (by simp)) rfl rfl rfl]
          simp [read_numeral_eq_ok_iff, IsShort, given, Numbers.block]
      | two major minor =>
          rw [toList_text_two, List.append_nil, List.append_assoc, List.cons_append,
            Block.read_caret_eq_ok_iff
              (Block.number_of_numeral (isNumeral major) (by simp))
              (Block.furtherNumber_of_numeral (isNumeral minor) (by simp)) rfl rfl]
          simp [read_numeral_eq_ok_iff, IsShort, given, Numbers.block, and_assoc]
      | three major minor patch =>
          exact absurd notFull (by simp [given])

/-- The text of numbers is that of the first, and digits and full stops. -/
theorem exists_text_eq_append
    (numbers : Numbers) :
    ∃ first rest,
      numbers.text.toList = Text.numeral first ++ rest ∧ ∀ c ∈ rest, IsPartChar c := by
  have isPoint : IsPartChar '.' := Or.inl (by decide)
  have isPart : ∀ n, ∀ c ∈ Text.numeral n, IsPartChar c := fun n c member =>
    Block.isPartChar_of_isDigit c ((Text.isNumeral_numeral n).allDigits c member)
  cases numbers with
  | one major =>
      exact ⟨major, [], toList_text_one major, List.forall_mem_nil _⟩
  | two major minor =>
      refine ⟨major, _, toList_text_two major minor, ?_⟩
      simp only [List.append_nil, List.forall_mem_cons]
      exact ⟨isPoint, isPart minor⟩
  | three major minor patch =>
      refine ⟨major, _, toList_text_three major minor patch, ?_⟩
      simp only [List.append_nil, List.forall_mem_cons, List.forall_mem_append]
      exact ⟨isPoint, isPart minor, isPoint, isPart patch⟩

theorem isBare_of_isBody
    {numbers : Numbers}
    (isBody : numbers.IsBody body) :
    IsBare body := by
  obtain ⟨first, rest, shape, consists⟩ := exists_text_eq_append numbers
  cases isBody with
  | plain =>
      rw [shape]
      exact isBare_of_numeral (Text.isNumeral_numeral first) consists
  | wild notFull =>
      rw [shape, List.append_assoc]
      apply isBare_of_numeral (Text.isNumeral_numeral first)
      rw [List.forall_mem_append, List.forall_mem_cons, List.forall_mem_singleton]
      exact ⟨consists, Or.inl (by decide), Or.inr rfl⟩

/-- Each spelling of numbers makes a caret and the numbers, with or without a star. -/
theorem makesCaret_of_mem_spellings
    {numbers : Numbers}
    {spelling : String}
    (isSpelling : spelling ∈ numbers.spellings) :
    ∃ body, numbers.IsBody body ∧ MakesCaret spelling body := by
  simp only [spellings, List.mem_append, List.mem_cons, List.not_mem_nil, or_false] at isSpelling
  rcases isSpelling with (rfl | rfl) | isWild
  · refine ⟨_, .plain numbers, ?_⟩
    exact makesCaret_of_bare (isBare_of_isBody (.plain numbers)) (List.append_nil _).symm
      (Or.inl rfl)
  · refine ⟨_, .plain numbers, ?_⟩
    exact makesCaret_of_caret (isBare_of_isBody (.plain numbers)) (by simp)
  · split at isWild
    · next notFull =>
        rw [List.mem_singleton.mp isWild]
        refine ⟨_, .wild notFull, ?_⟩
        exact makesCaret_of_bare (isBare_of_isBody (.wild notFull)) (by simp) (Or.inl rfl)
    · cases isWild

end Numbers

/-! ### Full versions -/

theorem eq_or_mem_of_mem_marked
    {mark c : Char}
    {part : List Char}
    (member : c ∈ Version.marked mark part) :
    c = mark ∧ part ≠ [] ∨ c ∈ part := by
  unfold Version.marked at member
  split at member
  · cases member
  · next notEmpty =>
      rcases List.mem_cons.mp member with isMark | isPart
      · exact Or.inl ⟨isMark, notEmpty⟩
      · exact Or.inr isPart

theorem consists_of_spells
    {major minor patch prerelease build : List Char}
    (spells : Version.Spells major minor patch prerelease build version) :
    ∀ c ∈ Version.spelled major minor patch prerelease build,
      Text.isDecimal c = true ∨ IsPartChar c ∨ c = '+' ∧ build ≠ [] := by
  have isPoint : IsPartChar '.' := Or.inl (by decide)
  intro c member
  simp only [Version.spelled, List.mem_append, List.mem_cons] at member
  rcases member with isMajor | rfl | isMinor | rfl | isPatch | isPrerelease | isBuild
  · exact Or.inl (spells.isMajor.allDecimal c isMajor)
  · exact Or.inr (Or.inl isPoint)
  · exact Or.inl (spells.isMinor.allDecimal c isMinor)
  · exact Or.inr (Or.inl isPoint)
  · exact Or.inl (spells.isPatch.allDecimal c isPatch)
  · rcases eq_or_mem_of_mem_marked isPrerelease with ⟨rfl, -⟩ | isPart
    · exact Or.inr (Or.inl (Or.inl (by decide)))
    · exact Or.inr (Or.inl (Or.inl (spells.isPrerelease c isPart)))
  · rcases eq_or_mem_of_mem_marked isBuild with isPlus | isPart
    · exact Or.inr (Or.inr isPlus)
    · exact Or.inr (Or.inl (Or.inl (spells.isBuild c isPart)))

theorem isBare_of_spells
    {major minor patch prerelease build : List Char}
    (spells : Version.Spells major minor patch prerelease build version) :
    IsBare (Version.spelled major minor patch prerelease build) := by
  have consists := consists_of_spells spells
  refine ⟨?_, ?_, ?_⟩
  · obtain ⟨first, more, shape⟩ := List.exists_cons_of_ne_nil spells.isMajor.notEmpty
    have isDecimal : Text.isDecimal first = true :=
      spells.isMajor.allDecimal first (by simp [shape])
    exact ⟨first, _, by rw [Version.spelled, shape, List.cons_append],
      by simp [Text.isDigit, isDecimal]⟩
  · intro c member
    rcases consists c member with isDecimal | isPart | ⟨rfl, -⟩
    · refine ⟨Text.isBlank_of_isDecimal isDecimal, ?_⟩
      rintro rfl
      cases isDecimal
    · exact ⟨isPart.solid.1, isPart.solid.2.1⟩
    · decide
  · intro endsOpen
    cases build with
    | nil =>
        rcases consists '+' (List.mem_of_getLast? endsOpen) with isDecimal | isPart | ⟨-, some⟩
        · cases isDecimal
        · exact isPart.solid.2.2 rfl
        · exact some rfl
    | cons first more =>
        -- The last character is the last of the build part.
        have isLast : (first :: more).getLast? = some '+' := by
          simpa [Version.spelled, Version.marked, List.getLast?_append, List.getLast?_cons]
            using endsOpen
        have isPart := spells.isBuild '+' (List.mem_of_getLast? isLast)
        cases isPart

/-- A bare text of a full version is read as the version's parts behind a caret. -/
theorem read_spelled
    {major minor patch prerelease : List Char}
    (spells : Version.Spells major minor patch prerelease [] version)
    (ascii : ∀ c ∈ Version.spelled major minor patch prerelease [], c.toNat < 0x80) :
    Block.read? ('^' :: Version.spelled major minor patch prerelease []) =
      some (.ok ⟨.caret, some version.major, some version.minor, some version.patch,
        if prerelease = [] then none else some prerelease, none⟩) := by
  have isMajor : Text.IsNumeral major :=
    spells.isMajor.isNumeral fun c member => ascii c (by simp [Version.spelled, member])
  have isMinor : Text.IsNumeral minor :=
    spells.isMinor.isNumeral fun c member => ascii c (by simp [Version.spelled, member])
  have isPatch : Text.IsNumeral patch :=
    spells.isPatch.isNumeral fun c member => ascii c (by simp [Version.spelled, member])
  have noDigit : ∀ c ∈ (Version.marked '-' prerelease).head?, c.isDigit = false := by
    unfold Version.marked
    split
    · simp
    · simp
  have noBuild : Version.marked '-' prerelease ++ Version.marked '+' [] =
      Version.marked '-' prerelease :=
    List.append_nil _
  rw [Version.spelled, noBuild, Block.read_caret_eq_ok_iff
    (Block.number_of_numeral isMajor (by simp))
    (Block.furtherNumber_of_numeral isMinor (by simp))
    (Block.furtherNumber_of_numeral isPatch noDigit)
    (Block.hyphen_part_marked spells.isPrerelease)]
  rw [spells.readMajor, spells.readMinor, spells.readPatch]
  exact ⟨_, _, _, rfl, rfl, rfl, rfl⟩

end CargoDeps.Requirement
