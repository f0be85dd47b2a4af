import CargoDeps.Cfg.Expression
import CargoDeps.Proofs.Cfg.Expression
import CargoDeps.Proofs.Cfg.Grammar

namespace CargoDeps.Cfg

/-!
# Printed conditions are read back

What is read has words for its flags and keys, and no double quote in its values.  Where a condition
is like this, its printed text splits into tokens from which the grammar derives it.
-/

/-- The words and the value of a test can stand in a text. -/
def Test.Writable : Test String → Prop
  | .flag name => IsWord name.toList
  | .equal key value => IsWord key.toList ∧ '"' ∉ value.toList

/-- All tests of a condition can stand in a text. -/
def Expression.Writable (expression : Expression String) : Prop :=
  ∀ test ∈ expression.tests, test.Writable

namespace Expression

theorem forall_mem_testsOfAll_iff
    {κ : Type}
    {holds : Test κ → Prop}
    {parts : List (Expression κ)} :
    (∀ test ∈ testsOfAll parts, holds test) ↔ ∀ part ∈ parts, ∀ test ∈ part.tests, holds test := by
  rw [testsOfAll_eq_flatMap, List.forall_mem_flatMap]

theorem writable_all_iff
    {parts : List (Expression String)} :
    (all parts).Writable ↔ ∀ part ∈ parts, part.Writable :=
  forall_mem_testsOfAll_iff

theorem writable_any_iff
    {parts : List (Expression String)} :
    (any parts).Writable ↔ ∀ part ∈ parts, part.Writable :=
  forall_mem_testsOfAll_iff

theorem writable_not_iff
    {part : Expression String} :
    (not part).Writable ↔ part.Writable :=
  Iff.rfl

end Expression

/-! ### What is derived can be written -/

/-- All conditions of a phrase can stand in a text. -/
def Phrase.Writable : Phrase → Prop
  | part expression => expression.Writable
  | parts expressions => ∀ expression ∈ expressions, expression.Writable

theorem Derives.writable
    {tokens : List Token}
    {phrase : Phrase}
    (derives : Derives tokens phrase)
    (wellFormed : ∀ token ∈ tokens, token.WellFormed) :
    phrase.Writable := by
  induction derives with
  | flag name =>
      have writable : (Test.flag name).Writable := wellFormed (.word name) List.mem_cons_self
      exact List.forall_mem_singleton.mpr writable
  | equal key value =>
      have isWord : IsWord key.toList := wellFormed (.word key) (by simp)
      have unquoted : '"' ∉ value.toList := wellFormed (.string value) (by simp)
      have writable : (Test.equal key value).Writable := ⟨isWord, unquoted⟩
      exact List.forall_mem_singleton.mpr writable
  | all _ inductionHypothesis =>
      exact Expression.writable_all_iff.mpr
        (inductionHypothesis fun token member => wellFormed token (by simp [member]))
  | any _ inductionHypothesis =>
      exact Expression.writable_any_iff.mpr
        (inductionHypothesis fun token member => wellFormed token (by simp [member]))
  | not _ inductionHypothesis =>
      have inner := inductionHypothesis fun token member => wellFormed token (by simp [member])
      exact Expression.writable_not_iff.mpr (inner _ List.mem_cons_self)
  | nil =>
      exact List.forall_mem_nil _
  | last _ inductionHypothesis =>
      exact List.forall_mem_singleton.mpr (inductionHypothesis wellFormed)
  | cons _ _ ofPart ofOthers =>
      have writablePart := ofPart fun token member => wellFormed token (by simp [member])
      have writableOthers := ofOthers fun token member => wellFormed token (by simp [member])
      exact List.forall_mem_cons.mpr ⟨writablePart, writableOthers⟩

/-- Conditions that a text spells can stand in a text. -/
theorem Spells.writable
    {text : List Char}
    {expression : Expression String}
    (spells : Spells text expression) :
    expression.Writable := by
  obtain ⟨tokens, splits, inner, rfl, derives⟩ := spells
  exact derives.writable fun token member => splits.wellFormed token (by simp [member])

/-! ### What can be written is spelled -/

theorem isWord_cons
    {first : Char}
    {rest : List Char}
    (isStart : isWordStart first = true)
    (areParts : rest.all isWordPart = true) :
    IsWord (first :: rest) :=
  ⟨first, rest, rfl, isStart, List.all_eq_true.mp areParts⟩

theorem Key.isWord_name
    (key : Key) :
    IsWord key.name.toList := by
  cases key <;> exact isWord_cons (by decide) (by decide)

theorem Combinator.isWord_name
    (combinator : Combinator) :
    IsWord combinator.name.toList := by
  cases combinator <;> exact isWord_cons (by decide) (by decide)

/-- A word with a text in parentheses behind it. -/
theorem Splits.enclosed
    {name : String}
    {inner : List Char}
    {tokens : List Token}
    (isWord : IsWord name.toList)
    (splits : Splits inner tokens) :
    Splits (name.toList ++ '(' :: (inner ++ [')']))
      (.word name :: .mark .opening :: (tokens ++ [.mark .closing])) := by
  have closed : Splits (inner ++ [')']) (tokens ++ [.mark .closing]) :=
    splits.append (Splits.nil.mark .closing)
  have wellFormed : (Token.word name).WellFormed := isWord
  exact .token wellFormed (closed.mark .opening)

namespace Expression

theorem exists_splits_printParts
    {parts : List (Expression Key)}
    (each :
      ∀ part ∈ parts,
        ∃ tokens, Splits part.print.toList tokens ∧ Derives tokens (.part part.named)) :
    ∃ tokens,
      Splits (printParts parts).toList tokens ∧ Derives tokens (.parts (namedAll parts)) := by
  induction parts with
  | nil =>
      exact ⟨[], .nil, .nil⟩
  | cons part rest inductionHypothesis =>
      obtain ⟨⟨tokens, splits, derives⟩, ofRest⟩ := List.forall_mem_cons.mp each
      cases rest with
      | nil =>
          exact ⟨tokens, splits, .last derives⟩
      | cons next others =>
          obtain ⟨later, splitsLater, derivesLater⟩ := inductionHypothesis ofRest
          have separated :
              Splits (',' :: ' ' :: (printParts (next :: others)).toList)
                (.mark .comma :: later) :=
            (Splits.blank rfl splitsLater).mark .comma
          refine ⟨tokens ++ .mark .comma :: later, ?_, .cons derives derivesLater⟩
          simpa [printParts] using splits.append separated

/-- The printed text of a condition splits into tokens from which the condition is derived. -/
theorem exists_splits_print
    {expression : Expression Key}
    (writable : expression.named.Writable) :
    ∃ tokens,
      Splits expression.print.toList tokens ∧ Derives tokens (.part expression.named) := by
  induction expression with
  | test t =>
      have writableTest : t.named.Writable := writable _ List.mem_cons_self
      cases t with
      | flag name =>
          have wellFormed : (Token.word name).WellFormed := writableTest
          refine ⟨_, ?_, .flag name⟩
          simpa [print, Test.print, Token.lexeme] using Splits.nil.token wellFormed
      | equal key value =>
          have wellFormedKey : (Token.word key.name).WellFormed := writableTest.1
          have wellFormedValue : (Token.string value).WellFormed := writableTest.2
          have splits :
              Splits
                (key.name.toList ++ ' ' :: '=' :: ' ' :: ('"' :: (value.toList ++ ['"']) ++ []))
                [.word key.name, .mark .equals, .string value] :=
            .token wellFormedKey
              (.blank rfl (.mark .equals (.blank rfl (.token wellFormedValue .nil))))
          refine ⟨_, ?_, .equal key.name value⟩
          simpa [print, Test.print] using splits
  | all parts inductionHypothesis =>
      rw [named, namedAll_eq_map, writable_all_iff, List.forall_mem_map] at writable
      obtain ⟨tokens, splits, derives⟩ :=
        exists_splits_printParts fun part member =>
          inductionHypothesis part member (writable part member)
      refine ⟨_, ?_, .all derives⟩
      simpa [print, Combinator.name] using splits.enclosed (Combinator.isWord_name .all)
  | any parts inductionHypothesis =>
      rw [named, namedAll_eq_map, writable_any_iff, List.forall_mem_map] at writable
      obtain ⟨tokens, splits, derives⟩ :=
        exists_splits_printParts fun part member =>
          inductionHypothesis part member (writable part member)
      refine ⟨_, ?_, .any derives⟩
      simpa [print, Combinator.name] using splits.enclosed (Combinator.isWord_name .any)
  | not part inductionHypothesis =>
      obtain ⟨tokens, splits, derives⟩ := inductionHypothesis writable
      refine ⟨_, ?_, .not (.last derives)⟩
      simpa [print, Combinator.name] using splits.enclosed (Combinator.isWord_name .not)

theorem Writable.spells_print
    {expression : Expression Key}
    (writable : expression.named.Writable) :
    Spells ("cfg".toList ++ '(' :: (expression.print.toList ++ [')'])) expression.named := by
  obtain ⟨tokens, splits, derives⟩ := exists_splits_print writable
  have isWord : IsWord "cfg".toList := isWord_cons (by decide) (by decide)
  exact ⟨_, splits.enclosed isWord, tokens, rfl, derives⟩

end Expression

end CargoDeps.Cfg
