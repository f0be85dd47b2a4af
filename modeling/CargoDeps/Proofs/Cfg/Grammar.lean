import CargoDeps.Cfg.Parser
import CargoDeps.Proofs.Cfg.Token

namespace CargoDeps.Cfg

/-!
# The grammar of conditions

A condition is a word, a word with a string behind an equals sign, or a list of conditions in
parentheses behind one of the words `all`, `any` and `not`; behind `not` stands a list of one.  The
conditions of a list have commas between them, and there may be one behind the last.  The reader
accepts what the grammar derives and nothing else.
-/

/-- What tokens can say: one condition, or those in a pair of parentheses. -/
inductive Phrase
  | part (expression : Expression String)
  | parts (expressions : List (Expression String))

/-- The rules of the grammar. -/
inductive Derives : List Token → Phrase → Prop
  | flag (name : String) :
      Derives [.word name] (.part (.test (.flag name)))
  | equal (key value : String) :
      Derives [.word key, .mark .equals, .string value] (.part (.test (.equal key value)))
  | all {tokens : List Token} {parts : List (Expression String)} :
      Derives tokens (.parts parts) →
      Derives (.word "all" :: .mark .opening :: (tokens ++ [.mark .closing]))
        (.part (.all parts))
  | any {tokens : List Token} {parts : List (Expression String)} :
      Derives tokens (.parts parts) →
      Derives (.word "any" :: .mark .opening :: (tokens ++ [.mark .closing]))
        (.part (.any parts))
  | not {tokens : List Token} {part : Expression String} :
      Derives tokens (.parts [part]) →
      Derives (.word "not" :: .mark .opening :: (tokens ++ [.mark .closing]))
        (.part (.not part))
  | nil :
      Derives [] (.parts [])
  | last {tokens : List Token} {part : Expression String} :
      Derives tokens (.part part) →
      Derives tokens (.parts [part])
  | cons {tokens others : List Token} {part : Expression String}
      {parts : List (Expression String)} :
      Derives tokens (.part part) →
      Derives others (.parts parts) →
      Derives (tokens ++ .mark .comma :: others) (.parts (part :: parts))

/-- The tokens read `cfg`, and a condition in parentheses behind it. -/
def Reads
    (tokens : List Token)
    (expression : Expression String) : Prop :=
  ∃ inner,
    tokens = .word "cfg" :: .mark .opening :: (inner ++ [.mark .closing]) ∧
      Derives inner (.part expression)

/-- A text `cfg(…)` spells a condition if it splits into tokens that read so. -/
def Spells
    (text : List Char)
    (expression : Expression String) : Prop :=
  ∃ tokens, Splits text tokens ∧ Reads tokens expression

/-! ### Combinations -/

theorem Combinator.ofName?_name
    (combinator : Combinator) :
    ofName? combinator.name = some combinator := by
  cases combinator <;> decide

theorem Combinator.name_of_ofName?
    {name : String}
    {combinator : Combinator}
    (found : ofName? name = some combinator) :
    combinator.name = name := by
  unfold ofName? at found
  grind [name]

theorem Derives.of_combine?
    {combinator : Combinator}
    {tokens : List Token}
    {parts : List (Expression String)}
    {expression : Expression String}
    (derives : Derives tokens (.parts parts))
    (combines : combinator.combine? parts = some expression) :
    Derives (.word combinator.name :: .mark .opening :: (tokens ++ [.mark .closing]))
      (.part expression) := by
  cases combinator with
  | all =>
      cases combines
      exact .all derives
  | any =>
      cases combines
      exact .any derives
  | not =>
      cases parts with
      | nil =>
          cases combines
      | cons part others =>
          cases others with
          | nil =>
              cases combines
              exact .not derives
          | cons next rest =>
              cases combines

/-! ### What is read is derived -/

/-- With some fuel, what the reader takes off the tokens is derived. -/
structure Sound (fuel : Nat) : Prop where
  part :
    ∀ {tokens expression rest},
      readPart fuel tokens = .ok (expression, rest) →
      ∃ used, tokens = used ++ rest ∧ Derives used (.part expression)
  parts :
    ∀ {tokens expressions rest},
      readParts fuel tokens = .ok (expressions, rest) →
      ∃ used, tokens = used ++ .mark .closing :: rest ∧ Derives used (.parts expressions)

namespace Sound

variable {fuel : Nat} {tokens rest : List Token} {expression : Expression String}
  {expressions : List (Expression String)}

theorem part_succ
    (sound : Sound fuel)
    (reads : readPart (fuel + 1) tokens = .ok (expression, rest)) :
    ∃ used, tokens = used ++ rest ∧ Derives used (.part expression) := by
  rw [readPart.eq_def] at reads
  split at reads
  · cases reads
  · next _ name inner sameFuel =>
      cases sameFuel
      split at reads
      · cases reads
        exact ⟨[.word name], rfl, .flag name⟩
      · next combinator found =>
          obtain ⟨⟨parts, after⟩, readsParts, finishes⟩ := bind_eq_ok_iff.mp reads
          dsimp only at finishes
          split at finishes
          · next combines =>
              cases finishes
              obtain ⟨used, rfl, derives⟩ := sound.parts readsParts
              rw [← Combinator.name_of_ofName? found]
              exact ⟨_, by simp, derives.of_combine? combines⟩
          · cases finishes
  · next key value after _ =>
      cases reads
      exact ⟨[.word key, .mark .equals, .string value], rfl, .equal key value⟩
  · cases reads
  · cases reads
    exact ⟨[.word _], rfl, .flag _⟩
  · cases reads

theorem parts_succ
    (sound : Sound fuel)
    (reads : readParts (fuel + 1) tokens = .ok (expressions, rest)) :
    ∃ used, tokens = used ++ .mark .closing :: rest ∧ Derives used (.parts expressions) := by
  rw [readParts.eq_def] at reads
  split at reads
  · cases reads
  · cases reads
    exact ⟨[], rfl, .nil⟩
  · next sameFuel _ =>
      cases sameFuel
      obtain ⟨⟨part, after⟩, readsPart, continues⟩ := bind_eq_ok_iff.mp reads
      obtain ⟨used, rfl, derives⟩ := sound.part readsPart
      dsimp only at continues
      split at continues
      · obtain ⟨⟨parts, last⟩, readsOthers, finishes⟩ := bind_eq_ok_iff.mp continues
        cases finishes
        obtain ⟨others, rfl, derivesOthers⟩ := sound.parts readsOthers
        exact ⟨used ++ .mark .comma :: others, by simp, .cons derives derivesOthers⟩
      · cases continues
        exact ⟨used, rfl, .last derives⟩
      · cases continues

end Sound

theorem sound_reader
    (fuel : Nat) :
    Sound fuel := by
  induction fuel with
  | zero =>
      constructor <;> intro tokens _ rest reads <;> cases reads
  | succ fuel inductionHypothesis =>
      exact ⟨inductionHypothesis.part_succ, inductionHypothesis.parts_succ⟩

/-! ### What is derived is read -/

/-- A condition cannot go on with the tokens. -/
def Stops (tokens : List Token) : Prop :=
  ∀ token ∈ tokens.head?, token ≠ .mark .opening ∧ token ≠ .mark .equals

/-- With some fuel, what is derived from few enough tokens is what the reader takes off them. -/
structure Complete (fuel : Nat) : Prop where
  part :
    ∀ {used expression rest},
      Derives used (.part expression) →
      Stops rest →
      2 * used.length ≤ fuel →
      readPart fuel (used ++ rest) = .ok (expression, rest)
  parts :
    ∀ {used expressions rest},
      Derives used (.parts expressions) →
      2 * used.length + 1 ≤ fuel →
      readParts fuel (used ++ .mark .closing :: rest) = .ok (expressions, rest)

theorem Derives.exists_word
    {tokens : List Token}
    {expression : Expression String}
    (derives : Derives tokens (.part expression)) :
    ∃ name others, tokens = .word name :: others := by
  cases derives <;> exact ⟨_, _, rfl⟩

theorem readPart_flag
    (fuel : Nat)
    (name : String)
    {rest : List Token}
    (stops : Stops rest) :
    readPart (fuel + 1) (.word name :: rest) = .ok (.test (.flag name), rest) := by
  cases rest with
  | nil =>
      rfl
  | cons token others =>
      obtain ⟨notOpening, notEquals⟩ := stops token rfl
      rw [readPart]
      · intro others' shape
        cases shape
        exact notOpening rfl
      · intro value others' shape
        cases shape
        exact notEquals rfl
      · intro others' shape
        cases shape
        exact notEquals rfl

theorem readPart_of_readParts
    {fuel : Nat}
    {combinator : Combinator}
    {tokens rest : List Token}
    {parts : List (Expression String)}
    {expression : Expression String}
    (reads : readParts fuel tokens = .ok (parts, rest))
    (combines : combinator.combine? parts = some expression) :
    readPart (fuel + 1) (.word combinator.name :: .mark .opening :: tokens) =
      .ok (expression, rest) := by
  simp [readPart, Combinator.ofName?_name, reads, combines, bind, Except.bind]

theorem readParts_last
    {fuel : Nat}
    {name : String}
    {tokens rest : List Token}
    {part : Expression String}
    (reads : readPart fuel (.word name :: tokens) = .ok (part, .mark .closing :: rest)) :
    readParts (fuel + 1) (.word name :: tokens) = .ok ([part], rest) := by
  simp [readParts, reads, bind, Except.bind]

theorem readParts_comma
    {fuel : Nat}
    {name : String}
    {tokens later rest : List Token}
    {part : Expression String}
    {parts : List (Expression String)}
    (reads : readPart fuel (.word name :: tokens) = .ok (part, .mark .comma :: later))
    (readsLater : readParts fuel later = .ok (parts, rest)) :
    readParts (fuel + 1) (.word name :: tokens) = .ok (part :: parts, rest) := by
  simp [readParts, reads, readsLater, bind, Except.bind]

namespace Complete

variable {fuel : Nat} {used rest : List Token} {expression : Expression String}
  {expressions : List (Expression String)}

theorem combination
    (complete : Complete fuel)
    (combinator : Combinator)
    (derives : Derives used (.parts expressions))
    (combines : combinator.combine? expressions = some expression)
    (enough : 2 * used.length + 1 ≤ fuel) :
    readPart (fuel + 1)
        (.word combinator.name :: .mark .opening :: (used ++ [.mark .closing]) ++ rest) =
      .ok (expression, rest) := by
  have reads : readParts fuel (used ++ .mark .closing :: rest) = .ok (expressions, rest) :=
    complete.parts derives enough
  simpa using readPart_of_readParts reads combines

theorem part_succ
    (complete : Complete fuel)
    (derives : Derives used (.part expression))
    (stops : Stops rest)
    (enough : 2 * used.length ≤ fuel + 1) :
    readPart (fuel + 1) (used ++ rest) = .ok (expression, rest) := by
  cases derives with
  | flag name =>
      exact readPart_flag fuel name stops
  | equal key value =>
      rfl
  | all derivesParts =>
      exact complete.combination .all derivesParts rfl (by simp at enough; omega)
  | any derivesParts =>
      exact complete.combination .any derivesParts rfl (by simp at enough; omega)
  | not derivesPart =>
      exact complete.combination .not derivesPart rfl (by simp at enough; omega)

theorem parts_succ
    (complete : Complete fuel)
    (derives : Derives used (.parts expressions))
    (enough : 2 * used.length + 1 ≤ fuel + 1) :
    readParts (fuel + 1) (used ++ .mark .closing :: rest) = .ok (expressions, rest) := by
  cases derives with
  | nil =>
      rfl
  | last derivesPart =>
      have stops : Stops (.mark .closing :: rest) := by
        simp [Stops]
      have reads := complete.part derivesPart stops (by omega)
      obtain ⟨name, others, rfl⟩ := derivesPart.exists_word
      exact readParts_last reads
  | @cons tokens others _ parts derivesPart derivesOthers =>
      have stops : Stops (.mark .comma :: (others ++ .mark .closing :: rest)) := by
        simp [Stops]
      have reads := complete.part derivesPart stops (by simp at enough; omega)
      have readsOthers : readParts fuel (others ++ .mark .closing :: rest) = .ok (parts, rest) :=
        complete.parts derivesOthers (by simp at enough; omega)
      obtain ⟨name, more, rfl⟩ := derivesPart.exists_word
      rw [List.append_assoc, List.cons_append]
      exact readParts_comma reads readsOthers

end Complete

theorem complete_reader
    (fuel : Nat) :
    Complete fuel := by
  induction fuel with
  | zero =>
      constructor
      · intro used expression rest derives _ enough
        -- A condition is not derived from no tokens, so its reader is never out of fuel.
        obtain ⟨name, others, rfl⟩ := derives.exists_word
        simp at enough
      · intro used expressions rest _ enough
        omega
  | succ fuel inductionHypothesis =>
      exact ⟨inductionHypothesis.part_succ, inductionHypothesis.parts_succ⟩

/-! ### Texts -/

theorem expect_eq_ok_iff
    {token : Token}
    {tokens rest : List Token} :
    expect token tokens = .ok rest ↔ tokens = token :: rest := by
  cases tokens with
  | nil =>
      simp [expect]
  | cons first others =>
      by_cases same : first = token <;> simp [expect, same]

theorem readCfg_eq_ok_iff
    {tokens : List Token}
    {expression : Expression String} :
    readCfg tokens = .ok expression ↔ Reads tokens expression := by
  constructor
  · intro reads
    obtain ⟨afterWord, isWord, readsInner⟩ := bind_eq_ok_iff.mp reads
    obtain ⟨afterOpening, isOpening, readsInner⟩ := bind_eq_ok_iff.mp readsInner
    obtain ⟨⟨found, afterPart⟩, readsPart, readsClosing⟩ := bind_eq_ok_iff.mp readsInner
    obtain ⟨afterClosing, isClosing, finishes⟩ := bind_eq_ok_iff.mp readsClosing
    obtain rfl := expect_eq_ok_iff.mp isWord
    obtain rfl := expect_eq_ok_iff.mp isOpening
    obtain rfl := expect_eq_ok_iff.mp isClosing
    obtain ⟨inner, rfl, derives⟩ := (sound_reader _).part readsPart
    cases afterClosing with
    | nil =>
        cases finishes
        exact ⟨inner, rfl, derives⟩
    | cons token others =>
        cases finishes
  · intro reads
    obtain ⟨inner, rfl, derives⟩ := reads
    have stops : Stops [.mark .closing] := by
      simp [Stops]
    have reads := (complete_reader (2 * (inner.length + 3))).part derives stops (by omega)
    simp [readCfg, expect, reads, bind, Except.bind]

/-- Tokens read as at most one condition. -/
theorem Reads.unique
    {tokens : List Token}
    {expression other : Expression String}
    (reads : Reads tokens expression)
    (readsOther : Reads tokens other) :
    expression = other := by
  rw [← readCfg_eq_ok_iff] at reads readsOther
  rw [reads] at readsOther
  exact Except.ok.inj readsOther

/-- A mark holds apart what stands on its two sides. -/
theorem isChain_append_mark
    {before after : List Token}
    (m : Mark)
    (apartBefore : before.IsChain Token.Apart)
    (apartAfter : after.IsChain Token.Apart) :
    (before ++ .mark m :: after).IsChain Token.Apart := by
  apply apartBefore.append
  · exact List.isChain_cons.mpr ⟨fun _ _ => .inl rfl, apartAfter⟩
  · intro first _ second isHead
    obtain rfl := Option.some.inj isHead
    exact .inr rfl

theorem Derives.isChain
    {tokens : List Token}
    {phrase : Phrase}
    (derives : Derives tokens phrase) :
    tokens.IsChain Token.Apart := by
  have combination :
      ∀ {inner : List Token} (name : String),
        inner.IsChain Token.Apart →
        List.IsChain Token.Apart
          (.word name :: .mark .opening :: (inner ++ [.mark .closing])) := by
    intro inner name apart
    exact isChain_append_mark .opening (.singleton (.word name))
      (isChain_append_mark .closing apart .nil)
  induction derives with
  | flag name =>
      exact .singleton _
  | equal key value =>
      exact isChain_append_mark .equals (.singleton (.word key)) (.singleton (.string value))
  | all _ inductionHypothesis =>
      exact combination "all" inductionHypothesis
  | any _ inductionHypothesis =>
      exact combination "any" inductionHypothesis
  | not _ inductionHypothesis =>
      exact combination "not" inductionHypothesis
  | nil =>
      exact .nil
  | last _ inductionHypothesis =>
      exact inductionHypothesis
  | cons _ _ apartPart apartOthers =>
      exact isChain_append_mark .comma apartPart apartOthers

theorem Reads.isChain
    {tokens : List Token}
    {expression : Expression String}
    (reads : Reads tokens expression) :
    tokens.IsChain Token.Apart := by
  obtain ⟨inner, rfl, derives⟩ := reads
  exact isChain_append_mark .opening (.singleton (.word "cfg"))
    (isChain_append_mark .closing derives.isChain .nil)

theorem parse_eq_ok_iff
    {text : List Char}
    {expression : Expression String} :
    parse text = .ok expression ↔ Spells text expression := by
  constructor
  · intro parses
    unfold parse at parses
    split at parses
    · next tokens read =>
        have reads : Reads tokens expression := readCfg_eq_ok_iff.mp parses
        exact ⟨tokens, (read_eq_ok_iff reads.isChain).mp read, reads⟩
    · cases parses
  · intro spells
    obtain ⟨tokens, splits, reads⟩ := spells
    rw [parse, (read_eq_ok_iff reads.isChain).mpr splits]
    exact readCfg_eq_ok_iff.mpr reads

end CargoDeps.Cfg
