import CargoDeps.Proofs.Text.Cut
import CargoDeps.Proofs.Text.Number

namespace CargoDeps.Version

/-!
# Texts of full versions

A text that reads as a version spells three numbers in decimal digits, none with a leading zero, a
pre-release part and a build part, of which both may be missing; at most a line feed follows.
-/

/-- A part behind its mark; nothing if it is empty. -/
def marked (mark : Char) (part : List Char) : List Char :=
  if part = [] then [] else mark :: part

/-- Three numbers between full stops, a pre-release part and a build part. -/
def spelled (major minor patch prerelease build : List Char) : List Char :=
  major ++
    '.' :: (minor ++ '.' :: (patch ++ (marked '-' prerelease ++ marked '+' build)))

/-- Decimal digits of any scripts, at least one, of which the first is no zero unless it stands
alone. -/
structure IsDecimalNumber (digits : List Char) : Prop where
  notEmpty : digits ≠ []
  allDecimal : ∀ c ∈ digits, Text.isDecimal c = true
  noLeadingZero : hasLeadingZero digits = false

/-- Numbers and the characters of the other parts make a version. -/
structure Spells (major minor patch prerelease build : List Char) (version : Version) : Prop where
  isMajor : IsDecimalNumber major
  isMinor : IsDecimalNumber minor
  isPatch : IsDecimalNumber patch
  isPrerelease : ∀ c ∈ prerelease, isIdentifierPart c = true
  isBuild : ∀ c ∈ build, isIdentifierPart c = true
  readMajor : Text.readNumber major = .ok version.major
  readMinor : Text.readNumber minor = .ok version.minor
  readPatch : Text.readNumber patch = .ok version.patch
  parts : ofParts version.major version.minor version.patch prerelease build = .ok version

variable {text rest digits : List Char} {version : Version}

/-! ### Versions of given parts -/

theorem of_ofParts
    {major minor patch : Nat}
    {prerelease build : List Char}
    (made : ofParts major minor patch prerelease build = .ok version) :
    ∃ prereleaseIdentifiers buildIdentifiers,
      (identifiers build).mapM readBuildIdentifier = .ok buildIdentifiers ∧
        version = ⟨major, minor, patch, prereleaseIdentifiers, buildIdentifiers⟩ := by
  obtain ⟨_, -, made⟩ := bind_eq_ok_iff.mp made
  obtain ⟨_, -, made⟩ := bind_eq_ok_iff.mp made
  obtain ⟨prereleaseIdentifiers, -, made⟩ := bind_eq_ok_iff.mp made
  obtain ⟨buildIdentifiers, readBuild, made⟩ := bind_eq_ok_iff.mp made
  exact ⟨prereleaseIdentifiers, buildIdentifiers, readBuild, (Except.ok.inj made).symm⟩

theorem numbers_of_ofParts
    {major minor patch : Nat}
    {prerelease build : List Char}
    (made : ofParts major minor patch prerelease build = .ok version) :
    version.major = major ∧ version.minor = minor ∧ version.patch = patch := by
  obtain ⟨_, _, -, rfl⟩ := of_ofParts made
  exact ⟨rfl, rfl, rfl⟩

theorem build_of_ofParts
    {major minor patch : Nat}
    {prerelease : List Char}
    (made : ofParts major minor patch prerelease [] = .ok version) :
    version.build = [] := by
  obtain ⟨_, _, noBuild, rfl⟩ := of_ofParts made
  exact (Except.ok.inj noBuild).symm

theorem of_ofDigits
    {major minor patch prerelease build : List Char}
    (made : ofDigits major minor patch prerelease build = .ok version) :
    Text.readNumber major = .ok version.major ∧
      Text.readNumber minor = .ok version.minor ∧
        Text.readNumber patch = .ok version.patch ∧
          ofParts version.major version.minor version.patch prerelease build = .ok version := by
  obtain ⟨majorNumber, readMajor, made⟩ := bind_eq_ok_iff.mp made
  obtain ⟨minorNumber, readMinor, made⟩ := bind_eq_ok_iff.mp made
  obtain ⟨patchNumber, readPatch, made⟩ := bind_eq_ok_iff.mp made
  replace made := mapError_eq_ok_iff.mp made
  obtain ⟨rfl, rfl, rfl⟩ := numbers_of_ofParts made
  exact ⟨mapError_eq_ok_iff.mp readMajor, mapError_eq_ok_iff.mp readMinor,
    mapError_eq_ok_iff.mp readPatch, made⟩

/-! ### Cutting a text -/

theorem of_number
    (cut : number? text = some (digits, rest)) :
    text = digits ++ rest ∧ digits ≠ [] ∧ ∀ c ∈ digits, Text.isDecimal c = true := by
  unfold number? at cut
  split at cut
  · cases cut
  · next notEmpty =>
      obtain ⟨rfl, rfl⟩ := Prod.mk.inj (Option.some.inj cut)
      exact ⟨List.takeWhile_append_dropWhile.symm, notEmpty,
        fun c member => List.mem_takeWhile_imp member⟩

theorem of_dottedNumber
    (cut : dottedNumber? text = some (digits, rest)) :
    text = '.' :: (digits ++ rest) ∧ digits ≠ [] ∧ ∀ c ∈ digits, Text.isDecimal c = true := by
  unfold dottedNumber? at cut
  split at cut
  · obtain ⟨rfl, found⟩ := of_number cut
    exact ⟨rfl, found⟩
  · cases cut

theorem of_optionalPart
    {mark : Char}
    {part : List Char}
    (cut : optionalPart? mark isIdentifierPart text = some (part, rest)) :
    text = marked mark part ++ rest ∧ ∀ c ∈ part, isIdentifierPart c = true := by
  unfold optionalPart? at cut
  split at cut
  · obtain ⟨rfl, rfl⟩ := Prod.mk.inj (Option.some.inj cut)
    exact ⟨rfl, List.forall_mem_nil _⟩
  · next c more =>
      split at cut
      · next isMark =>
          split at cut
          · cases cut
          · next notEmpty =>
              obtain ⟨rfl, rfl⟩ := Prod.mk.inj (Option.some.inj cut)
              refine ⟨?_, fun c member => List.mem_takeWhile_imp member⟩
              rw [marked, if_neg notEmpty, isMark, List.cons_append,
                List.takeWhile_append_dropWhile]
      · obtain ⟨rfl, rfl⟩ := Prod.mk.inj (Option.some.inj cut)
        exact ⟨rfl, List.forall_mem_nil _⟩

theorem exists_ending
    (text : List Char) :
    ∃ ending,
      text = (if text.getLast? = some '\n' then text.dropLast else text) ++ ending ∧
        (ending = [] ∨ ending = ['\n']) := by
  split
  · next endsLine =>
      exact ⟨['\n'], (List.dropLast_append_getLast? '\n' endsLine).symm, Or.inr rfl⟩
  · exact ⟨[], (List.append_nil text).symm, Or.inl rfl⟩

/-- The parts that a text is cut into, in their order. -/
theorem of_split
    {major minor patch prerelease build : List Char}
    (cut : split? text = some (major, minor, patch, prerelease, build)) :
    ∃ ending,
      text = spelled major minor patch prerelease build ++ ending ∧
        (ending = [] ∨ ending = ['\n']) ∧
          (∀ digits ∈ [major, minor, patch],
            digits ≠ [] ∧ ∀ c ∈ digits, Text.isDecimal c = true) ∧
            ∀ part ∈ [prerelease, build], ∀ c ∈ part, isIdentifierPart c = true := by
  obtain ⟨ending, shape, isEnding⟩ := exists_ending text
  simp only [split?, Option.bind_eq_bind, Option.bind_eq_some_iff] at cut
  revert shape cut
  generalize (if text.getLast? = some '\n' then text.dropLast else text) = body
  intro shape cut
  obtain ⟨⟨majorDigits, afterMajor⟩, cutMajor, ⟨minorDigits, afterMinor⟩, cutMinor,
    ⟨patchDigits, afterPatch⟩, cutPatch, ⟨prereleasePart, afterPrerelease⟩, cutPrerelease,
    ⟨buildPart, afterBuild⟩, cutBuild, atEnd⟩ := cut
  obtain ⟨isBody, someMajor, decimalMajor⟩ := of_number cutMajor
  obtain ⟨isAfterMajor, someMinor, decimalMinor⟩ := of_dottedNumber cutMinor
  obtain ⟨isAfterMinor, somePatch, decimalPatch⟩ := of_dottedNumber cutPatch
  obtain ⟨isAfterPatch, prereleaseParts⟩ := of_optionalPart cutPrerelease
  obtain ⟨isAfterPrerelease, buildParts⟩ := of_optionalPart cutBuild
  dsimp only at isAfterMajor isAfterMinor isAfterPatch isAfterPrerelease atEnd
  subst isAfterPrerelease isAfterPatch isAfterMinor isAfterMajor isBody shape
  split at atEnd
  · next nothingLeft =>
      subst nothingLeft
      simp only [Option.some.injEq, Prod.mk.injEq] at atEnd
      obtain ⟨rfl, rfl, rfl, rfl, rfl⟩ := atEnd
      refine ⟨ending, by simp [spelled], isEnding, ?_, ?_⟩
      · simpa using
          ⟨⟨someMajor, decimalMajor⟩, ⟨someMinor, decimalMinor⟩, somePatch, decimalPatch⟩
      · simpa using ⟨prereleaseParts, buildParts⟩
  · cases atEnd

/-! ### What a full version spells -/

theorem exists_spells_of_parse
    {source : String}
    (parsed : parse source = .ok version) :
    ∃ major minor patch prerelease build ending,
      source.toList = spelled major minor patch prerelease build ++ ending ∧
        (ending = [] ∨ ending = ['\n']) ∧
          Spells major minor patch prerelease build version := by
  unfold parse at parsed
  split at parsed
  · cases parsed
  · split at parsed
    · cases parsed
    · next major minor patch prerelease build cut =>
        obtain ⟨ending, shape, isEnding, decimal, identifierParts⟩ := of_split cut
        split_ifs at parsed with zeroMajor zeroMinor zeroPatch
        obtain ⟨readMajor, readMinor, readPatch, made⟩ := of_ofDigits parsed
        have isNumber : ∀ digits ∈ [major, minor, patch], ¬ hasLeadingZero digits = true →
            IsDecimalNumber digits := by
          intro digits member noLeadingZero
          obtain ⟨notEmpty, allDecimal⟩ := decimal digits member
          exact ⟨notEmpty, allDecimal, Bool.eq_false_iff.mpr noLeadingZero⟩
        refine ⟨major, minor, patch, prerelease, build, ending, shape, isEnding, ?_⟩
        exact ⟨isNumber major (by simp) zeroMajor, isNumber minor (by simp) zeroMinor,
          isNumber patch (by simp) zeroPatch, identifierParts prerelease (by simp),
          identifierParts build (by simp), readMajor, readMinor, readPatch, made⟩

theorem IsDecimalNumber.isNumeral
    (isNumber : IsDecimalNumber digits)
    (ascii : ∀ c ∈ digits, c.toNat < 0x80) :
    Text.IsNumeral digits := by
  refine ⟨isNumber.notEmpty, ?_, isNumber.noLeadingZero⟩
  intro c member
  have isDecimal := isNumber.allDecimal c member
  simp only [Text.isDecimal, Text.decimalValue?, ascii c member, if_true] at isDecimal
  split at isDecimal
  · next inRange =>
      obtain ⟨lower, upper⟩ := Bool.and_eq_true_iff.mp inRange
      exact Bool.and_eq_true_iff.mpr ⟨decide_eq_true (of_decide_eq_true lower),
        decide_eq_true (of_decide_eq_true upper)⟩
  · cases isDecimal

end CargoDeps.Version
