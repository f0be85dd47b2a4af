import CargoDeps.Proofs.Requirement.Block

namespace CargoDeps.Requirement

/-!
# A requirement is the conjunction of its blocks

Two requirements with a comma between them are read just when both are, and mean the clauses of the
first and what the second adds to them.  A version meets what a requirement keeps of the clauses of
its blocks just when it meets each block, unless one of them has an open build part: such a block
asks for a version without build identifiers, and it is lost beside an alike block that does not
ask for it.
-/

/-- The blocks of a requirement, without the blanks around them. -/
def blocks (source : String) : List (List Char) :=
  (source.toList.splitOn ',').map Text.trim

/-- A text is a requirement. -/
def IsAccepted (source : String) : Prop :=
  ∃ requirement, parse source = .ok requirement

/-- A text is a requirement that a version meets. -/
def Admits (source : String) (version : Version) : Prop :=
  ∃ requirement, parse source = .ok requirement ∧ requirement.admits version = true

/-- A text is a block that a version meets. -/
def BlockAdmits (block : List Char) (version : Version) : Prop :=
  ∃ clauses, readBlock block = .ok clauses ∧ ∀ clause ∈ clauses, clause.admits version = true

/-- No block of a requirement ends with a plus sign. -/
def IsClosed (source : String) : Prop :=
  ∀ block ∈ blocks source, block.getLast? ≠ some '+'

instance (source : String) : Decidable (IsClosed source) :=
  inferInstanceAs (Decidable (∀ block ∈ blocks source, block.getLast? ≠ some '+'))

instance (source : String) (version : Version) : Decidable (Admits source version) :=
  match parsed : parse source with
  | .ok requirement =>
      decidable_of_iff (requirement.admits version = true) (by simp [Admits, parsed])
  | .error _ => isFalse (by simp [Admits, parsed])

variable {first second source : String} {version : Version}

/-! ### The clauses of several blocks -/

/-- The clauses of blocks, one block after the other. -/
def readBlocks (texts : List (List Char)) : Except Error (List Clause) :=
  (texts.mapM readBlock).map List.flatten

theorem readBlocks_cons_eq_ok_iff
    {text : List Char}
    {texts : List (List Char)}
    {clauses : List Clause} :
    readBlocks (text :: texts) = .ok clauses ↔
      ∃ own others,
        readBlock text = .ok own ∧ readBlocks texts = .ok others ∧ clauses = own ++ others := by
  simp only [readBlocks, List.mapM_cons, map_eq_ok_iff, bind_eq_ok_iff, pure, Except.pure,
    Except.ok.injEq]
  constructor
  · rintro ⟨_, ⟨own, readOwn, others, readOthers, rfl⟩, rfl⟩
    exact ⟨own, others.flatten, readOwn, ⟨others, readOthers, rfl⟩, List.flatten_cons⟩
  · rintro ⟨own, _, readOwn, ⟨others, readOthers, rfl⟩, rfl⟩
    exact ⟨own :: others, ⟨own, readOwn, others, readOthers, rfl⟩, List.flatten_cons⟩

theorem readBlocks_append_eq_ok_iff
    {texts others : List (List Char)}
    {clauses : List Clause} :
    readBlocks (texts ++ others) = .ok clauses ↔
      ∃ left right,
        readBlocks texts = .ok left ∧ readBlocks others = .ok right ∧ clauses = left ++ right := by
  induction texts generalizing clauses with
  | nil =>
      simp [readBlocks, Except.map, pure, Except.pure, eq_comm]
  | cons text rest inductionHypothesis =>
      simp only [List.cons_append, readBlocks_cons_eq_ok_iff, inductionHypothesis]
      constructor
      · rintro ⟨own, _, readOwn, ⟨left, right, readLeft, readRight, rfl⟩, rfl⟩
        exact ⟨own ++ left, right, ⟨own, left, readOwn, readLeft, rfl⟩, readRight,
          (List.append_assoc own left right).symm⟩
      · rintro ⟨_, right, ⟨own, left, readOwn, readLeft, rfl⟩, readRight, rfl⟩
        exact ⟨own, left ++ right, readOwn, ⟨left, right, readLeft, readRight, rfl⟩,
          List.append_assoc own left right⟩

theorem exists_readBlocks_iff
    {texts : List (List Char)} :
    (∃ clauses, readBlocks texts = .ok clauses) ↔
      ∀ text ∈ texts, ∃ clauses, readBlock text = .ok clauses := by
  induction texts with
  | nil =>
      simp [readBlocks, Except.map, pure, Except.pure]
  | cons text rest inductionHypothesis =>
      rw [List.forall_mem_cons, ← inductionHypothesis]
      simp only [readBlocks_cons_eq_ok_iff]
      constructor
      · rintro ⟨_, own, others, readOwn, readOthers, -⟩
        exact ⟨⟨own, readOwn⟩, others, readOthers⟩
      · rintro ⟨⟨own, readOwn⟩, others, readOthers⟩
        exact ⟨own ++ others, own, others, readOwn, readOthers, rfl⟩

theorem mem_of_readBlocks
    {texts : List (List Char)}
    {clauses : List Clause}
    (read : readBlocks texts = .ok clauses)
    {clause : Clause} :
    clause ∈ clauses ↔ ∃ text ∈ texts, ∃ own, readBlock text = .ok own ∧ clause ∈ own := by
  induction texts generalizing clauses with
  | nil =>
      obtain rfl := Except.ok.inj read
      simp
  | cons text rest inductionHypothesis =>
      obtain ⟨own, others, readOwn, readOthers, rfl⟩ := readBlocks_cons_eq_ok_iff.mp read
      rw [List.mem_append, inductionHypothesis readOthers]
      simp [readOwn]

theorem readBlocks_map_trim
    (texts : List (List Char)) :
    readBlocks (texts.map Text.trim) = readBlocks texts := by
  simp only [readBlocks, List.mapM_map, Function.comp_def, readBlock_trim]

/-! ### The requirement of a text -/

theorem parse_eq
    (source : String) :
    parse source =
      (readBlocks (blocks source)).map fun clauses => ⟨source, withoutAlike clauses⟩ := by
  rw [blocks, readBlocks_map_trim]
  simp only [parse, readBlocks]
  cases (source.toList.splitOn ',').mapM readBlock <;> rfl

theorem parse_eq_ok_iff
    {requirement : Requirement} :
    parse source = .ok requirement ↔
      ∃ clauses,
        readBlocks (blocks source) = .ok clauses ∧
          requirement = ⟨source, withoutAlike clauses⟩ := by
  rw [parse_eq, map_eq_ok_iff]
  simp only [eq_comm]

theorem isAccepted_iff :
    IsAccepted source ↔ ∀ block ∈ blocks source, ∃ clauses, readBlock block = .ok clauses := by
  simp only [IsAccepted, parse_eq_ok_iff, ← exists_readBlocks_iff]
  constructor
  · rintro ⟨_, clauses, read, -⟩
    exact ⟨clauses, read⟩
  · rintro ⟨clauses, read⟩
    exact ⟨_, clauses, read, rfl⟩

/-- The clauses of the blocks of a closed requirement are plain. -/
theorem plain_of_readBlocks
    (closed : IsClosed source)
    {clauses : List Clause}
    (read : readBlocks (blocks source) = .ok clauses) :
    ∀ clause ∈ clauses, clause.IsPlain := by
  intro clause member
  obtain ⟨block, isBlock, own, readOwn, isOwn⟩ := (mem_of_readBlocks read).mp member
  obtain ⟨piece, -, rfl⟩ := List.mem_map.mp isBlock
  apply plain_readBlock _ readOwn clause isOwn
  rw [Text.trim_trim]
  exact closed _ isBlock

/-- A version meets a closed requirement just when it meets each of its blocks. -/
theorem admits_iff_of_closed
    (closed : IsClosed source) :
    Admits source version ↔ ∀ block ∈ blocks source, BlockAdmits block version := by
  constructor
  · rintro ⟨requirement, parsed, admitted⟩ block isBlock
    obtain ⟨clauses, read, rfl⟩ := parse_eq_ok_iff.mp parsed
    obtain ⟨own, readOwn⟩ := exists_readBlocks_iff.mp ⟨clauses, read⟩ block isBlock
    refine ⟨own, readOwn, ?_⟩
    intro clause isOwn
    have isKept : clause ∈ withoutAlike clauses :=
      (mem_withoutAlike_iff (plain_of_readBlocks closed read)).mpr
        ((mem_of_readBlocks read).mpr ⟨block, isBlock, own, readOwn, isOwn⟩)
    exact List.all_eq_true.mp admitted clause isKept
  · intro each
    have readable : ∀ block ∈ blocks source, ∃ clauses, readBlock block = .ok clauses := by
      intro block isBlock
      obtain ⟨own, readOwn, -⟩ := each block isBlock
      exact ⟨own, readOwn⟩
    obtain ⟨clauses, read⟩ := exists_readBlocks_iff.mpr readable
    refine ⟨_, parse_eq_ok_iff.mpr ⟨clauses, read, rfl⟩, List.all_eq_true.mpr ?_⟩
    intro clause isKept
    obtain ⟨block, isBlock, own, readOwn, isOwn⟩ :=
      (mem_of_readBlocks read).mp (withoutAlike_subset clauses isKept)
    obtain ⟨sameOwn, readSame, admitted⟩ := each block isBlock
    rw [readOwn] at readSame
    obtain rfl := Except.ok.inj readSame
    exact admitted clause isOwn

/-! ### Requirements put together -/

theorem blocks_append
    (first second : String) :
    blocks (first ++ "," ++ second) = blocks first ++ blocks second := by
  have shape : (first ++ "," ++ second).toList = first.toList ++ ',' :: second.toList := by
    simp
  rw [blocks, shape, List.splitOn_append_cons_self, List.map_append, blocks, blocks]

/-- The requirement that two texts make with a comma between them: the clauses of the first, and
those of the second that are new beside them. -/
theorem parse_append_eq_ok_iff
    {requirement : Requirement} :
    parse (first ++ "," ++ second) = .ok requirement ↔
      ∃ left right,
        parse first = .ok left ∧
          parse second = .ok right ∧
            requirement =
              ⟨first ++ "," ++ second, left.clauses ++ news left.clauses right.clauses⟩ := by
  simp only [parse_eq_ok_iff, blocks_append, readBlocks_append_eq_ok_iff]
  constructor
  · rintro ⟨_, ⟨left, right, readLeft, readRight, rfl⟩, rfl⟩
    refine ⟨_, _, ⟨left, readLeft, rfl⟩, ⟨right, readRight, rfl⟩, ?_⟩
    rw [withoutAlike_append]
  · rintro ⟨_, _, ⟨left, readLeft, rfl⟩, ⟨right, readRight, rfl⟩, rfl⟩
    refine ⟨left ++ right, ⟨left, right, readLeft, readRight, rfl⟩, ?_⟩
    rw [withoutAlike_append]

theorem isAccepted_append :
    IsAccepted (first ++ "," ++ second) ↔ IsAccepted first ∧ IsAccepted second := by
  simp only [isAccepted_iff, blocks_append, List.forall_mem_append]

theorem isClosed_append :
    IsClosed (first ++ "," ++ second) ↔ IsClosed first ∧ IsClosed second := by
  simp only [IsClosed, blocks_append, List.forall_mem_append]

/-- What a version has to meet: the first requirement, and the clauses of the second that are alike to
none of the first. -/
theorem admits_append_iff
    {left right : Requirement}
    (parsedLeft : parse first = .ok left)
    (parsedRight : parse second = .ok right) :
    Admits (first ++ "," ++ second) version ↔
      left.admits version = true ∧
        ∀ clause ∈ right.clauses,
          (∃ known ∈ left.clauses, clause.alike known = true) ∨ clause.admits version = true := by
  have parsed : parse (first ++ "," ++ second) =
      .ok ⟨first ++ "," ++ second, left.clauses ++ news left.clauses right.clauses⟩ :=
    parse_append_eq_ok_iff.mpr ⟨left, right, parsedLeft, parsedRight, rfl⟩
  have isNew : ∀ clause, clause ∈ news left.clauses right.clauses ↔
      clause ∈ right.clauses ∧ ¬ ∃ known ∈ left.clauses, clause.alike known = true := by
    simp [news]
  simp only [Admits, parsed, Except.ok.injEq, exists_eq_left', admits, List.all_eq_true]
  rw [List.forall_mem_append]
  apply and_congr_right
  intro _
  simp only [isNew, and_imp, or_iff_not_imp_left]

theorem left_of_admits_append
    (admitted : Admits (first ++ "," ++ second) version) :
    Admits first version := by
  obtain ⟨requirement, parsed, meets⟩ := admitted
  obtain ⟨left, right, parsedLeft, parsedRight, -⟩ := parse_append_eq_ok_iff.mp parsed
  have both := (admits_append_iff parsedLeft parsedRight).mp ⟨requirement, parsed, meets⟩
  exact ⟨left, parsedLeft, both.1⟩

theorem admits_append_of_both
    (admittedFirst : Admits first version)
    (admittedSecond : Admits second version) :
    Admits (first ++ "," ++ second) version := by
  obtain ⟨left, parsedLeft, meetsLeft⟩ := admittedFirst
  obtain ⟨right, parsedRight, meetsRight⟩ := admittedSecond
  rw [admits_append_iff parsedLeft parsedRight]
  exact ⟨meetsLeft, fun clause member => Or.inr (List.all_eq_true.mp meetsRight clause member)⟩

theorem admits_append_of_closed
    (closedFirst : IsClosed first)
    (closedSecond : IsClosed second) :
    Admits (first ++ "," ++ second) version ↔ Admits first version ∧ Admits second version := by
  rw [admits_iff_of_closed (isClosed_append.mpr ⟨closedFirst, closedSecond⟩), blocks_append,
    List.forall_mem_append, admits_iff_of_closed closedFirst, admits_iff_of_closed closedSecond]

theorem admits_append_self :
    Admits (first ++ "," ++ first) version ↔ Admits first version :=
  ⟨left_of_admits_append, fun admitted => admits_append_of_both admitted admitted⟩

/-! ### Requirements of the same blocks -/

theorem isAccepted_congr
    (same : ∀ block, block ∈ blocks first ↔ block ∈ blocks second) :
    IsAccepted first ↔ IsAccepted second := by
  simp only [isAccepted_iff, same]

theorem admits_congr_of_closed
    (same : ∀ block, block ∈ blocks first ↔ block ∈ blocks second)
    (closed : IsClosed second) :
    Admits first version ↔ Admits second version := by
  have closedFirst : IsClosed first :=
    fun block isBlock => closed block ((same block).mp isBlock)
  simp only [admits_iff_of_closed closed, admits_iff_of_closed closedFirst, same]

/-- The blocks in their order decide the clauses of a requirement. -/
theorem parse_of_blocks_eq
    (same : blocks second = blocks first)
    {requirement : Requirement}
    (parsed : parse first = .ok requirement) :
    parse second = .ok ⟨second, requirement.clauses⟩ := by
  obtain ⟨clauses, read, rfl⟩ := parse_eq_ok_iff.mp parsed
  exact parse_eq_ok_iff.mpr ⟨clauses, same ▸ read, rfl⟩

theorem admits_congr_of_blocks_eq
    (same : blocks first = blocks second) :
    Admits first version ↔ Admits second version := by
  constructor
  · rintro ⟨requirement, parsed, meets⟩
    exact ⟨_, parse_of_blocks_eq same.symm parsed, meets⟩
  · rintro ⟨requirement, parsed, meets⟩
    exact ⟨_, parse_of_blocks_eq same parsed, meets⟩

/-! ### The printed form -/

theorem blocks_text
    (requirement : Requirement) :
    blocks requirement.text = blocks requirement.source := by
  have notEmpty : blocks requirement.source ≠ [] := by
    rw [blocks, Ne, List.map_eq_nil_iff]
    exact List.splitOn_ne_nil ',' requirement.source.toList
  have free : ∀ block ∈ blocks requirement.source, ',' ∉ block := by
    intro block isBlock hasComma
    obtain ⟨piece, isPiece, rfl⟩ := List.mem_map.mp isBlock
    exact Text.not_mem_of_mem_splitOn isPiece (Text.trim_subset piece hasComma)
  rw [blocks, text, String.toList_ofList, ← blocks, List.splitOn_intercalate ',' free notEmpty, blocks,
    List.map_map]
  exact List.map_congr_left fun piece _ => Text.trim_trim piece

/-- The printed form of a requirement is read again, as the same clauses, and is printed as itself. -/
theorem exists_parse_text
    {requirement : Requirement}
    (parsed : parse source = .ok requirement) :
    ∃ printed,
      parse requirement.text = .ok printed ∧
        printed.clauses = requirement.clauses ∧ printed.text = requirement.text := by
  have isSource : requirement.source = source := by
    obtain ⟨clauses, -, rfl⟩ := parse_eq_ok_iff.mp parsed
    rfl
  have same : blocks requirement.text = blocks source := by
    rw [blocks_text, isSource]
  refine ⟨_, parse_of_blocks_eq same parsed, rfl, ?_⟩
  change String.ofList ([','].intercalate (blocks requirement.text)) =
    String.ofList ([','].intercalate (blocks requirement.source))
  rw [blocks_text]

/-! ### The conjunction -/

/-- Two requirements with a comma between them are accepted just when both are.  Then a version meets
them together just when it meets the first and those clauses of the second that are alike to none of
the first; without blocks that end with a plus sign this is to meet both.  Repetition changes
nothing, nor do blanks around blocks, and without blocks that end with a plus sign neither does
their order.  The printed form of a requirement is a requirement of the same meaning and the same
printed form. -/
theorem conjunction_of_blocks
    (first second : String)
    (version : Version) :
    (IsAccepted (first ++ "," ++ second) ↔ IsAccepted first ∧ IsAccepted second) ∧
      (∀ left right, parse first = .ok left → parse second = .ok right →
        (Admits (first ++ "," ++ second) version ↔
          left.admits version = true ∧
            ∀ clause ∈ right.clauses,
              (∃ known ∈ left.clauses, clause.alike known = true) ∨
                clause.admits version = true)) ∧
      (IsClosed first → IsClosed second →
        (Admits (first ++ "," ++ second) version ↔
          Admits first version ∧ Admits second version)) ∧
      (Admits first version → Admits second version →
        Admits (first ++ "," ++ second) version) ∧
      (Admits (first ++ "," ++ first) version ↔ Admits first version) ∧
      (blocks first = blocks second →
        (IsAccepted first ↔ IsAccepted second) ∧
          (Admits first version ↔ Admits second version)) ∧
      ((∀ block, block ∈ blocks first ↔ block ∈ blocks second) →
        (IsAccepted first ↔ IsAccepted second) ∧
          (IsClosed second → (Admits first version ↔ Admits second version))) ∧
      ∀ requirement, parse first = .ok requirement →
        ∃ printed,
          parse requirement.text = .ok printed ∧
            (∀ other, printed.admits other = requirement.admits other) ∧
              printed.text = requirement.text := by
  refine ⟨isAccepted_append, fun _ _ => admits_append_iff, admits_append_of_closed,
    admits_append_of_both, admits_append_self, ?_, ?_, ?_⟩
  · intro same
    exact ⟨isAccepted_congr fun block => by rw [same], admits_congr_of_blocks_eq same⟩
  · intro same
    exact ⟨isAccepted_congr same, admits_congr_of_closed same⟩
  · intro requirement parsed
    obtain ⟨printed, parsedAgain, sameClauses, sameText⟩ := exists_parse_text parsed
    refine ⟨printed, parsedAgain, ?_, sameText⟩
    intro other
    rw [admits, admits, sameClauses]

/-- A range in two blocks with blanks between them. -/
theorem conjunction_of_range :
    IsClosed ">=1.0 " ∧ IsClosed " <1.5" ∧
      (Admits (">=1.0 " ++ "," ++ " <1.5") (.release 1 4 9) ↔
        Admits ">=1.0 " (.release 1 4 9) ∧ Admits " <1.5" (.release 1 4 9)) := by
  have closedFirst : IsClosed ">=1.0 " := by decide
  have closedSecond : IsClosed " <1.5" := by decide
  exact ⟨closedFirst, closedSecond,
    (conjunction_of_blocks ">=1.0 " " <1.5" (.release 1 4 9)).2.2.1 closedFirst closedSecond⟩

/-- A block that asks for a version without build identifiers is lost behind one that does not. -/
theorem open_block_lost :
    Admits ("=1.0.0" ++ "," ++ "=1.0.0+") ⟨1, 0, 0, [], ["abc"]⟩ ∧
      ¬ Admits "=1.0.0+" ⟨1, 0, 0, [], ["abc"]⟩ ∧
        ¬ Admits ("=1.0.0+" ++ "," ++ "=1.0.0") ⟨1, 0, 0, [], ["abc"]⟩ := by
  decide

end CargoDeps.Requirement
