import CargoDeps.Cfg.Token
import CargoDeps.Proofs.Text.Cut
import Mathlib.Data.List.Chain

namespace CargoDeps.Cfg

/-!
# Texts and their tokens

A text splits into tokens if it is made of them, one after another, with blanks anywhere between.
The reader finds such a split.  Where no two words stand side by side there is no other, as blanks
or other tokens end each word.
-/

/-- An identifier of ASCII letters, digits and underscores, which does not begin with a digit. -/
def IsWord (text : List Char) : Prop :=
  ∃ first rest,
    text = first :: rest ∧
      isWordStart first = true ∧
        ∀ c ∈ rest, isWordPart c = true

namespace Token

/-- The token as it stands in a text. -/
def lexeme : Token → List Char
  | mark m => [m.char]
  | string value => '"' :: (value.toList ++ ['"'])
  | word name => name.toList

/-- Strings hold no double quotes, and words are identifiers. -/
def WellFormed : Token → Prop
  | mark _ => True
  | string value => '"' ∉ value.toList
  | word name => IsWord name.toList

/-- Whether the token is a word. -/
def isWord : Token → Bool
  | word _ => true
  | _ => false

/-- Two neighbours are told apart without a blank between them. -/
def Apart (first second : Token) : Prop :=
  first.isWord = false ∨ second.isWord = false

end Token

/-- A text is made of tokens with blanks around them. -/
inductive Splits : List Char → List Token → Prop
  | nil :
      Splits [] []
  | blank {c : Char} {text : List Char} {tokens : List Token} :
      Text.isBlank c = true →
      Splits text tokens →
      Splits (c :: text) tokens
  | token {token : Token} {text : List Char} {tokens : List Token} :
      token.WellFormed →
      Splits text tokens →
      Splits (token.lexeme ++ text) (token :: tokens)

namespace Splits

variable {text later : List Char} {tokens others : List Token}

theorem append
    (splits : Splits text tokens)
    (splitsLater : Splits later others) :
    Splits (text ++ later) (tokens ++ others) := by
  induction splits with
  | nil =>
      exact splitsLater
  | blank isBlank _ inductionHypothesis =>
      exact .blank isBlank inductionHypothesis
  | token wellFormed _ inductionHypothesis =>
      rw [List.append_assoc]
      exact .token wellFormed inductionHypothesis

theorem word
    {letters : List Char}
    (isWord : IsWord letters)
    (splits : Splits text tokens) :
    Splits (letters ++ text) (.word (String.ofList letters) :: tokens) := by
  have wellFormed : (Token.word (String.ofList letters)).WellFormed := by
    simpa [Token.WellFormed] using isWord
  simpa [Token.lexeme] using Splits.token wellFormed splits

theorem string
    {inside : List Char}
    (unquoted : '"' ∉ inside)
    (splits : Splits text tokens) :
    Splits ('"' :: (inside ++ '"' :: text)) (.string (String.ofList inside) :: tokens) := by
  have wellFormed : (Token.string (String.ofList inside)).WellFormed := by
    simpa [Token.WellFormed] using unquoted
  simpa [Token.lexeme] using Splits.token wellFormed splits

theorem mark
    (m : Mark)
    (splits : Splits text tokens) :
    Splits (m.char :: text) (.mark m :: tokens) :=
  .token (show (Token.mark m).WellFormed from trivial) splits

theorem wellFormed
    (splits : Splits text tokens) :
    ∀ token ∈ tokens, token.WellFormed := by
  induction splits with
  | nil =>
      exact List.forall_mem_nil _
  | blank _ _ inductionHypothesis =>
      exact inductionHypothesis
  | token wellFormed _ inductionHypothesis =>
      exact List.forall_mem_cons.mpr ⟨wellFormed, inductionHypothesis⟩

end Splits

/-! ### Reading inside tokens -/

namespace Token

/-- A word ends where no character follows that could be a part of it. -/
theorem readFrom_word_end
    {offset : Nat}
    {seen text : List Char}
    (ends : ∀ c ∈ text.head?, isWordPart c = false) :
    readFrom (.inWord seen) offset text =
      (readFrom .between offset text).map (word (String.ofList seen.reverse) :: ·) := by
  cases text with
  | nil =>
      rfl
  | cons c rest =>
      have isEnd : isWordPart c = false := ends c rfl
      cases begins : begin offset c with
      | error unexpected =>
          simp [readFrom, isEnd, begins, bind, Except.bind, Except.map]
      | ok found =>
          cases reads : readFrom found.2 (offset + 1) rest <;>
            simp [readFrom, isEnd, begins, reads, bind, Except.bind, pure, Except.pure, Except.map]

theorem readFrom_inWord
    {offset : Nat}
    {seen letters text : List Char}
    (areParts : ∀ c ∈ letters, isWordPart c = true)
    (ends : ∀ c ∈ text.head?, isWordPart c = false) :
    readFrom (.inWord seen) offset (letters ++ text) =
      (readFrom .between (offset + letters.length) text).map
        (word (String.ofList (seen.reverse ++ letters)) :: ·) := by
  induction letters generalizing offset seen with
  | nil =>
      simpa using readFrom_word_end ends
  | cons c letters inductionHypothesis =>
      obtain ⟨isPart, others⟩ := List.forall_mem_cons.mp areParts
      rw [List.cons_append, readFrom, if_pos isPart, inductionHypothesis others]
      simp [Nat.add_assoc, Nat.add_comm 1]

/-- A string ends at the first double quote. -/
theorem readFrom_inString
    {start offset : Nat}
    {seen inside text : List Char}
    (unquoted : '"' ∉ inside) :
    readFrom (.inString start seen) offset (inside ++ '"' :: text) =
      (readFrom .between (offset + inside.length + 1) text).map
        (string (String.ofList (seen.reverse ++ inside)) :: ·) := by
  induction inside generalizing offset seen with
  | nil =>
      cases reads : readFrom .between (offset + 1) text <;>
        simp [readFrom, reads, bind, Except.bind, pure, Except.pure, Except.map]
  | cons c inside inductionHypothesis =>
      obtain ⟨isInside, others⟩ := List.ne_and_not_mem_of_not_mem_cons unquoted
      rw [List.cons_append, readFrom, if_neg (Ne.symm isInside), inductionHypothesis others]
      simp [Nat.add_assoc, Nat.add_comm 1]

end Token

/-! ### What is read is a split -/

namespace Token

theorem char_of_ofChar?
    {c : Char}
    {m : Mark}
    (found : Mark.ofChar? c = some m) :
    m.char = c := by
  unfold Mark.ofChar? at found
  split at found <;> cases found <;> rfl

/-- The characters of the token that is open. -/
def Reading.opened : Reading → List Char
  | between => []
  | inWord letters => letters.reverse
  | inString _ inside => '"' :: inside.reverse

/-- The characters of the token that is open can begin one of its sort. -/
def Reading.Valid : Reading → Prop
  | between => True
  | inWord letters => IsWord letters.reverse
  | inString _ inside => '"' ∉ inside

theorem splits_of_begin
    {offset : Nat}
    {c : Char}
    {completed : List Token}
    {reading : Reading}
    (begins : begin offset c = .ok (completed, reading)) :
    reading.Valid ∧
      ∀ {text tokens},
        Splits (reading.opened ++ text) tokens →
        Splits (c :: text) (completed ++ tokens) := by
  unfold begin at begins
  split at begins
  · next isBlank =>
      cases begins
      exact ⟨trivial, fun splits => .blank isBlank splits⟩
  · split at begins
    · next isQuote =>
        cases begins
        exact ⟨List.not_mem_nil, fun splits => isQuote ▸ splits⟩
    · split at begins
      · next isStart =>
          cases begins
          exact ⟨⟨c, [], rfl, isStart, List.forall_mem_nil _⟩, fun splits => splits⟩
      · split at begins
        · next m found =>
            cases begins
            rw [← char_of_ofChar? found]
            exact ⟨trivial, fun splits => splits.mark m⟩
        · cases begins

/-- Where a text goes on between two tokens, the first character begins one or is blank. -/
theorem splits_cons_of_readFrom
    {c : Char}
    {rest : List Char}
    {offset : Nat}
    {tokens : List Token}
    (ofRest :
      ∀ {reading : Reading} {offset : Nat} {tokens : List Token},
        reading.Valid →
        readFrom reading offset rest = .ok tokens →
        Splits (reading.opened ++ rest) tokens)
    (reads : readFrom .between offset (c :: rest) = .ok tokens) :
    Splits (c :: rest) tokens := by
  obtain ⟨⟨completed, next⟩, begins, continues⟩ := bind_eq_ok_iff.mp reads
  obtain ⟨later, readsLater, finishes⟩ := bind_eq_ok_iff.mp continues
  obtain rfl := Except.ok.inj finishes
  obtain ⟨validNext, extend⟩ := splits_of_begin begins
  exact extend (ofRest validNext readsLater)

theorem splits_of_readFrom
    {text : List Char}
    {reading : Reading}
    {offset : Nat}
    {tokens : List Token}
    (valid : reading.Valid)
    (reads : readFrom reading offset text = .ok tokens) :
    Splits (reading.opened ++ text) tokens := by
  induction text generalizing reading offset tokens with
  | nil =>
      cases reading with
      | between =>
          cases reads
          exact .nil
      | inWord letters =>
          cases reads
          exact Splits.nil.word valid
      | inString start inside =>
          cases reads
  | cons c rest inductionHypothesis =>
      cases reading with
      | between =>
          exact splits_cons_of_readFrom inductionHypothesis reads
      | inWord letters =>
          by_cases isPart : isWordPart c = true
          · have validNext : (Reading.inWord (c :: letters)).Valid := by
              obtain ⟨first, others, shape, isStart, areParts⟩ := valid
              refine ⟨first, others ++ [c], by simp [shape], isStart, ?_⟩
              simpa [or_imp, forall_and, isPart] using areParts
            rw [readFrom, if_pos isPart] at reads
            simpa [Reading.opened] using inductionHypothesis validNext reads
          · rw [readFrom_word_end (by simpa using isPart)] at reads
            obtain ⟨later, readsLater, rfl⟩ := map_eq_ok_iff.mp reads
            exact (splits_cons_of_readFrom inductionHypothesis readsLater).word valid
      | inString start inside =>
          by_cases isQuote : c = '"'
          · rw [readFrom, if_pos isQuote] at reads
            obtain ⟨later, readsLater, finishes⟩ := bind_eq_ok_iff.mp reads
            obtain rfl := Except.ok.inj finishes
            have unquoted : '"' ∉ inside.reverse :=
              fun member => valid (List.mem_reverse.mp member)
            have splits : Splits rest later :=
              inductionHypothesis (show Reading.between.Valid from trivial) readsLater
            rw [isQuote]
            exact splits.string unquoted
          · have validNext : (Reading.inString start (c :: inside)).Valid :=
              List.not_mem_cons_of_ne_of_not_mem (Ne.symm isQuote) valid
            rw [readFrom, if_neg isQuote] at reads
            simpa [Reading.opened] using inductionHypothesis validNext reads

end Token

/-! ### A split is what is read -/

/-- The parts of words are ASCII characters above the blanks. -/
theorem toNat_of_isWordPart
    {c : Char}
    (isPart : isWordPart c = true) :
    0x30 ≤ c.toNat ∧ c.toNat ≤ 0x7A := by
  rcases Bool.or_eq_true_iff.mp isPart with isStart | isDigit
  · rcases Bool.or_eq_true_iff.mp isStart with isAlpha | isUnderscore
    · exact Text.toNat_of_isAlphanum (Bool.or_eq_true_iff.mpr (Or.inl isAlpha))
    · obtain rfl := of_decide_eq_true isUnderscore
      decide
  · exact Text.toNat_of_isAlphanum (Bool.or_eq_true_iff.mpr (Or.inr isDigit))

theorem isWordPart_of_isBlank
    {c : Char}
    (isBlank : Text.isBlank c = true) :
    isWordPart c = false := by
  apply Bool.eq_false_iff.mpr
  intro isPart
  have range := toNat_of_isWordPart isPart
  have visible : 0x21 ≤ c.toNat ∧ c.toNat ≤ 0x7E := by omega
  rw [Text.isBlank_of_visible visible] at isBlank
  cases isBlank

theorem isWordPart_char
    (m : Mark) :
    isWordPart m.char = false := by
  cases m <;> decide

/-- Where no word comes first, no text begins that could go on with a word before it. -/
theorem Splits.isWordPart_head
    {text : List Char}
    {tokens : List Token}
    (splits : Splits text tokens)
    (noWord : ∀ token ∈ tokens.head?, token.isWord = false) :
    ∀ c ∈ text.head?, isWordPart c = false := by
  cases splits with
  | nil =>
      simp
  | blank isBlank _ =>
      simpa using isWordPart_of_isBlank isBlank
  | @token token _ _ _ _ =>
      cases token with
      | mark m =>
          simpa [Token.lexeme] using isWordPart_char m
      | string value =>
          simp [Token.lexeme]
          decide
      | word name =>
          simp [Token.isWord] at noWord

theorem Token.begin_of_isWordStart
    {offset : Nat}
    {c : Char}
    (isStart : isWordStart c = true) :
    begin offset c = .ok ([], .inWord [c]) := by
  have isPart : isWordPart c = true := by
    simp [isWordPart, isStart]
  have notBlank : ¬Text.isBlank c = true := by
    intro isBlank
    rw [isWordPart_of_isBlank isBlank] at isPart
    cases isPart
  have notQuote : c ≠ '"' := by
    rintro rfl
    exact absurd isStart (by decide)
  rw [begin, if_neg notBlank, if_neg notQuote, if_pos isStart]

theorem Token.begin_char
    (offset : Nat)
    (m : Mark) :
    begin offset m.char = .ok ([mark m], .between) := by
  cases m <;> rfl

/-- Where no two words stand side by side, the tokens that a text splits into are read. -/
theorem Splits.readFrom_eq
    {text : List Char}
    {tokens : List Token}
    (splits : Splits text tokens)
    (apart : tokens.IsChain Token.Apart)
    (offset : Nat) :
    Token.readFrom .between offset text = .ok tokens := by
  induction splits generalizing offset with
  | nil =>
      rfl
  | blank isBlank _ inductionHypothesis =>
      simp [Token.readFrom, Token.begin, isBlank, inductionHypothesis apart, bind, Except.bind,
        pure, Except.pure]
  | @token token text tokens wellFormed splits inductionHypothesis =>
      obtain ⟨first, others⟩ := List.isChain_cons.mp apart
      have reads := inductionHypothesis others
      cases token with
      | mark m =>
          simp [Token.lexeme, Token.readFrom, Token.begin_char, reads, bind, Except.bind, pure,
            Except.pure]
      | string value =>
          have begins : Token.begin offset '"' = .ok ([], .inString offset []) := rfl
          simp [Token.lexeme, Token.readFrom, begins, Token.readFrom_inString wellFormed, reads,
            bind, Except.bind, pure, Except.pure, Except.map]
      | word name =>
          obtain ⟨c, letters, shape, isStart, areParts⟩ := wellFormed
          have ends : ∀ c ∈ text.head?, isWordPart c = false :=
            splits.isWordPart_head fun token isNext =>
              (first token isNext).resolve_left (by simp [Token.isWord])
          have whole : String.ofList (c :: letters) = name := by
            rw [← shape, String.ofList_toList]
          simp [Token.lexeme, shape, Token.readFrom, Token.begin_of_isWordStart isStart,
            Token.readFrom_inWord areParts ends, reads, whole, bind, Except.bind, pure,
            Except.pure, Except.map]

/-- Tokens of which no two words stand side by side are read exactly if the text splits into them.
-/
theorem read_eq_ok_iff
    {text : List Char}
    {tokens : List Token}
    (apart : tokens.IsChain Token.Apart) :
    Token.read text = .ok tokens ↔ Splits text tokens := by
  constructor
  · intro reads
    exact Token.splits_of_readFrom (show Token.Reading.between.Valid from trivial) reads
  · intro splits
    exact splits.readFrom_eq apart 0

end CargoDeps.Cfg
