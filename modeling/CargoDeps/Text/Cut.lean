namespace CargoDeps.Text

/-!
# Cutting texts

What is cut off a text: the blanks at its ends, and what stands before or behind a mark.  A text
that is cut in two at a mark is the two parts with the mark between them (`eq_of_cutFirst?`).
-/

/-! ### Blanks -/

/-- Unicode white space, together with the four information separators U+001C to U+001F. -/
def isBlank (c : Char) : Bool :=
  let n := c.toNat
  (0x09 ≤ n && n ≤ 0x0D) || (0x1C ≤ n && n ≤ 0x20) || n == 0x85 || n == 0xA0 || n == 0x1680 ||
    (0x2000 ≤ n && n ≤ 0x200A) || n == 0x2028 || n == 0x2029 || n == 0x202F || n == 0x205F ||
    n == 0x3000

/-- The text from its first character that is not blank. -/
def trimStart (text : List Char) : List Char :=
  text.dropWhile isBlank

/-- The text up to its last character that is not blank. -/
def trimEnd (text : List Char) : List Char :=
  (text.reverse.dropWhile isBlank).reverse

/-- The text without the blanks at its two ends. -/
def trim (text : List Char) : List Char :=
  trimEnd (trimStart text)

/-- Core's white space is blank. -/
theorem isBlank_of_isWhitespace {c : Char} (h : c.isWhitespace = true) : isBlank c = true := by
  simp only [Char.isWhitespace, Bool.or_eq_true, decide_eq_true_eq] at h
  rcases h with ((rfl | rfl) | rfl) | rfl <;> decide

/-! ### Marks -/

/-- The text before the first `mark` and the text after it. -/
def cutFirst? (mark : Char) : List Char → Option (List Char × List Char)
  | [] => none
  | c :: rest =>
      if c = mark then
        some ([], rest)
      else
        (cutFirst? mark rest).map fun (before, after) => (c :: before, after)

/-- The text after the last `mark`. -/
def afterLast? (mark : Char) (text : List Char) : Option (List Char) :=
  (cutFirst? mark text.reverse).map fun (after, _) => after.reverse

/-- A cut text is the two parts with the mark between them, and the first part is free of it. -/
theorem eq_of_cutFirst? {mark : Char} {text before after : List Char}
    (cut : cutFirst? mark text = some (before, after)) :
    text = before ++ mark :: after ∧ mark ∉ before := by
  induction text generalizing before with
  | nil => simp [cutFirst?] at cut
  | cons c rest inductionHypothesis =>
      by_cases isMark : c = mark
      · simp [cutFirst?, isMark] at cut
        obtain ⟨rfl, rfl⟩ := cut
        simp [isMark]
      · simp only [cutFirst?, isMark, if_false, Option.map_eq_some_iff, Prod.exists] at cut
        obtain ⟨shorter, after', found, shape⟩ := cut
        obtain ⟨rfl, rfl⟩ := Prod.mk.inj shape
        obtain ⟨rfl, free⟩ := inductionHypothesis found
        simp [free, Ne.symm isMark]

end CargoDeps.Text
