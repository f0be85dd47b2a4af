import CargoDeps.Proofs.Requirement.Alike
import CargoDeps.Proofs.Text.Cut
import Mathlib.Data.List.Infix

namespace CargoDeps.Requirement

/-!
# The texts of blocks

Behind its operator a block consists of the characters of numbers and identifiers up to its build
part.  Only a block that ends with a plus sign has a build part without identifiers, and a block of
any other form stands for clauses that count build identifiers just when their target has some.
-/

/-- A character of a number, of a pre-release part or between them. -/
def IsPartChar (c : Char) : Prop :=
  Version.isIdentifierPart c = true ∨ c = '*'

/-- A text is left of another behind characters of numbers and pre-release parts. -/
def Behind (rest text : List Char) : Prop :=
  ∃ taken, text = taken ++ rest ∧ ∀ c ∈ taken, IsPartChar c

namespace Behind

variable {text rest left : List Char}

theorem refl
    (text : List Char) :
    Behind text text :=
  ⟨[], rfl, List.forall_mem_nil _⟩

theorem cons
    {c : Char}
    (isPart : IsPartChar c)
    (behind : Behind left rest) :
    Behind left (c :: rest) := by
  obtain ⟨taken, rfl, parts⟩ := behind
  exact ⟨c :: taken, rfl, List.forall_mem_cons.mpr ⟨isPart, parts⟩⟩

theorem trans
    (behind : Behind left rest)
    (further : Behind rest text) :
    Behind left text := by
  obtain ⟨taken, rfl, parts⟩ := behind
  obtain ⟨earlier, rfl, earlierParts⟩ := further
  exact ⟨earlier ++ taken, (List.append_assoc earlier taken left).symm,
    List.forall_mem_append.mpr ⟨earlierParts, parts⟩⟩

instance : Trans Behind Behind Behind :=
  ⟨trans⟩

theorem dropWhile
    {allowed : Char → Bool}
    (parts : ∀ c, allowed c = true → IsPartChar c)
    (text : List Char) :
    Behind (text.dropWhile allowed) text :=
  ⟨text.takeWhile allowed, List.takeWhile_append_dropWhile.symm,
    fun c member => parts c (List.mem_takeWhile_imp member)⟩

theorem suffix
    (behind : Behind rest text) :
    rest <:+ text := by
  obtain ⟨taken, rfl, -⟩ := behind
  exact List.suffix_append taken rest

end Behind

namespace Block

/-! ### Reading goes forward -/

theorem readOperator_suffix
    (text : List Char) :
    (readOperator text).2 <:+ text := by
  fun_cases readOperator <;>
    first
      | exact List.suffix_refl _
      | exact List.suffix_cons _ _
      | exact (List.suffix_cons _ _).trans (List.suffix_cons _ _)

theorem isPartChar_of_isDigit
    (c : Char)
    (isDigit : c.isDigit = true) :
    IsPartChar c :=
  Or.inl (by simp [Version.isIdentifierPart, Char.isAlphanum, isDigit])

theorem number_behind
    {text rest : List Char}
    {number : Number}
    (read : number? text = some (number, rest)) :
    Behind rest text := by
  unfold number? at read
  split at read
  · obtain ⟨-, rfl⟩ := Prod.mk.inj (Option.some.inj read)
    exact .cons (Or.inr rfl) (.refl _)
  · obtain ⟨-, rfl⟩ := Prod.mk.inj (Option.some.inj read)
    exact .cons (Or.inl (by decide)) (.refl _)
  · split at read
    · cases read
    · obtain ⟨-, rfl⟩ := Prod.mk.inj (Option.some.inj read)
      exact .dropWhile isPartChar_of_isDigit _

theorem furtherNumber_behind
    {text rest : List Char}
    {number : Number}
    (read : furtherNumber? text = some (number, rest)) :
    Behind rest text := by
  unfold furtherNumber? at read
  split at read
  · exact .cons (Or.inl (by decide)) (number_behind read)
  · obtain ⟨-, rfl⟩ := Prod.mk.inj (Option.some.inj read)
    exact .refl _

theorem hyphen_part_behind
    (text : List Char) :
    Behind (part '-' text).2 text := by
  fun_cases part with
  | case1 =>
      exact .refl _
  | case2 rest =>
      exact .cons (Or.inl (by decide)) (.dropWhile (fun _ isPart => Or.inl isPart) _)
  | case3 =>
      exact .refl _

/-- A part is open at the end of a text only if the text is its mark alone. -/
theorem eq_singleton_of_part
    {mark : Char}
    {text : List Char}
    (isOpen : part mark text = (some [], [])) :
    text = [mark] := by
  unfold part at isOpen
  split at isOpen
  · cases isOpen
  · next c rest =>
      split at isOpen
      · next isMark =>
          obtain ⟨noPart, noRest⟩ := Prod.mk.inj isOpen
          have nothing : rest = [] := by
            rw [← List.takeWhile_append_dropWhile (p := Version.isIdentifierPart) (l := rest),
              Option.some.inj noPart, noRest, List.append_nil]
          rw [isMark, nothing]
      · cases isOpen

/-- Behind the operator a block is characters of numbers and identifiers, and then its build part. -/
theorem build_of_read
    {text : List Char}
    {block : Block}
    (read : read? text = some (.ok block)) :
    block.operator = (readOperator text).1 ∧
      ∃ left, Behind left (readOperator text).2 ∧ part '+' left = (block.build, []) := by
  simp only [read?, bind, Option.bind_eq_some_iff] at read
  obtain ⟨⟨major, afterMajor⟩, readMajor, ⟨minor, afterMinor⟩, readMinor,
    ⟨patch, afterPatch⟩, readPatch, ending⟩ := read
  split at ending
  · next atEnd =>
      obtain ⟨majorNumber, -, others⟩ := bind_eq_ok_iff.mp (Option.some.inj ending)
      obtain ⟨minorNumber, -, others⟩ := bind_eq_ok_iff.mp others
      obtain ⟨patchNumber, -, others⟩ := bind_eq_ok_iff.mp others
      obtain rfl := Except.ok.inj others
      refine ⟨rfl, (part '-' afterPatch).2, ?_, Prod.ext rfl atEnd⟩
      calc
        Behind (part '-' afterPatch).2 afterPatch := hyphen_part_behind afterPatch
        Behind _ afterMinor := furtherNumber_behind readPatch
        Behind _ afterMajor := furtherNumber_behind readMinor
        Behind _ (readOperator text).2 := number_behind readMajor
  · cases ending

theorem plus_suffix_of_read
    {text : List Char}
    {block : Block}
    (read : read? text = some (.ok block))
    (isOpen : block.build = some []) :
    ['+'] <:+ text := by
  obtain ⟨-, left, behind, readBuild⟩ := build_of_read read
  rw [isOpen] at readBuild
  rw [← eq_singleton_of_part readBuild]
  exact behind.suffix.trans (readOperator_suffix text)

theorem eq_nil_of_part
    {mark : Char}
    {text : List Char}
    (noPart : part mark text = (none, [])) :
    text = [] := by
  unfold part at noPart
  split at noPart
  · rfl
  · split at noPart
    · cases noPart
    · exact (Prod.mk.inj noPart).2

/-- A block without a build part is its operator and characters of numbers and identifiers. -/
theorem isPartChar_of_read
    {text : List Char}
    {block : Block}
    (read : read? text = some (.ok block))
    (noBuild : block.build = none) :
    ∀ c ∈ (readOperator text).2, IsPartChar c := by
  obtain ⟨-, left, ⟨taken, shape, parts⟩, readBuild⟩ := build_of_read read
  rw [noBuild] at readBuild
  rw [shape, eq_nil_of_part readBuild, List.append_nil]
  exact parts

/-! ### Plain clauses -/

theorem plain_clausesFor
    {block : Block}
    (closed : block.build ≠ some [])
    (target : Version) :
    ∀ clause ∈ block.clausesFor target, clause.IsPlain := by
  have notOpen : (decide (block.build = some []) : Bool) = false := decide_eq_false closed
  simp only [clausesFor, notOpen, Bool.or_false]
  -- One case for each operator and each kind of clause that it makes.
  repeat' split
  all_goals simp [range, Clause.IsPlain, Bound.IsPlain, Bound.plain]

theorem clausesFor_of_clauses
    {source : String}
    {block : Block}
    {clauses : List Clause}
    (meaning : block.clauses source = .ok clauses) :
    ∃ target,
      block.target = .ok target ∧
        clauses = block.clausesFor target ∧
          (block.build = none ∨ Operator.allowsBuild block.operator = true) := by
  unfold Block.clauses at meaning
  split at meaning
  · cases meaning
  · split at meaning
    · cases meaning
    · next target isTarget =>
        split_ifs at meaning with isPartial hasBuild
        obtain rfl := Except.ok.inj meaning
        refine ⟨target, isTarget, rfl, ?_⟩
        cases build : block.build with
        | none =>
            exact Or.inl rfl
        | some text =>
            simpa [build] using hasBuild

end Block

/-! ### Blocks between commas -/

theorem getLast_normalBlock
    (block : List Char) :
    (normalBlock block).getLast? = (Text.trim block).getLast? := by
  unfold normalBlock
  split
  · next empty =>
      rw [empty]
  · next c rest shape =>
      rw [shape]
      split
      · exact List.getLast?_cons_cons
      · rfl

theorem normalBlock_trim
    (block : List Char) :
    normalBlock (Text.trim block) = normalBlock block := by
  rw [normalBlock, Text.trim_trim, normalBlock]

theorem readBlock_trim
    (block : List Char) :
    readBlock (Text.trim block) = readBlock block := by
  rw [readBlock, normalBlock_trim, readBlock]

theorem readBlock_eq_ok_iff
    {text : List Char}
    {clauses : List Clause} :
    readBlock text = .ok clauses ↔
      ∃ block,
        Block.read? (normalBlock text) = some (.ok block) ∧
          block.clauses (String.ofList (normalBlock text)) = .ok clauses := by
  simp only [readBlock]
  split
  · next unreadable =>
      simp [unreadable]
  · next tooLong =>
      simp [tooLong]
  · next block isBlock =>
      simp [isBlock]

/-- A block that does not end with a plus sign stands for plain clauses. -/
theorem plain_readBlock
    {text : List Char}
    {clauses : List Clause}
    (closed : (Text.trim text).getLast? ≠ some '+')
    (read : readBlock text = .ok clauses) :
    ∀ clause ∈ clauses, clause.IsPlain := by
  obtain ⟨block, isBlock, meaning⟩ := readBlock_eq_ok_iff.mp read
  obtain ⟨target, -, rfl, -⟩ := Block.clausesFor_of_clauses meaning
  apply Block.plain_clausesFor
  intro isOpen
  obtain ⟨before, shape⟩ := Block.plus_suffix_of_read isBlock isOpen
  rw [← getLast_normalBlock, ← shape] at closed
  simp at closed

end CargoDeps.Requirement
