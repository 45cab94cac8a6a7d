import Mathlib.Data.List.Induction
import ThoughtJournal.Text.Basic

/-! # Words and the estimate of tokens

The words of a text are its fields between blank characters that are not empty, and going through the
characters counts them (`Text.wordCount_eq_length_words`).

A text that is put behind another one is counted on from whether a word is left open there
(`Text.wordCount_append_eq`). So all words of the two texts are counted, except that the last word of
the first one and the first word of the second one become a single word where they meet
(`Text.wordCount_append`); a blank character between the texts keeps them apart
(`Text.wordCount_append_blanks`). The estimate of tokens is therefore monotone and subadditive
(`Text.estimateTokens_append`).
-/

namespace ThoughtJournal.Text

/-! ## Words as fields -/

/-- The words of a text: the fields between its blank characters that are not empty. -/
def words (text : Text) : List Text := (text.splitOnP isBlank).filter fun field => !field.isEmpty

/-- One step of counting. A word begins with a visible character outside of a word. -/
theorem wordsFrom_cons (inside : Bool) (c : Char) (rest : Text) :
    wordsFrom inside (c :: rest) =
      (if isBlank c || inside then 0 else 1) + wordsFrom (!isBlank c) rest := by
  cases blank : isBlank c with
  | true => simp [wordsFrom, blank]
  | false => simp [wordsFrom, blank]

/-- Outside of a word the filled fields are counted, inside of a word those that follow it. -/
theorem wordsFrom_eq_length (text : Text) :
    wordsFrom false text = (words text).length ∧
      wordsFrom true text =
        ((text.splitOnP isBlank).tail.filter fun field => !field.isEmpty).length := by
  unfold words
  induction text with
  | nil => simp [wordsFrom]
  | cons c rest ih =>
      obtain ⟨outside, inside⟩ := ih
      rw [wordsFrom_cons, wordsFrom_cons, List.splitOnP_cons_eq_if_modifyHead]
      cases blank : isBlank c with
      | true => simp [outside]
      | false =>
          -- A visible character belongs to the first of the fields that follow, which it fills.
          obtain ⟨field, fields, split⟩ :=
            List.exists_cons_of_ne_nil (List.splitOnP_ne_nil isBlank rest)
          rw [split] at inside ⊢
          simp [inside, Nat.add_comm]

/-- The count is the number of the words. -/
theorem wordCount_eq_length_words (text : Text) : wordCount text = (words text).length :=
  (wordsFrom_eq_length text).1

/-! ## Texts put together -/

/-- Whether the last character of a text is visible, so that what follows may continue a word. -/
def endsInWord (text : Text) : Bool := text.getLast?.any fun c => !isBlank c

/-- Whether the first character of a text is visible, so that it may continue a word. -/
def startsInWord (text : Text) : Bool := text.head?.any fun c => !isBlank c

theorem endsInWord_concat (text : Text) (c : Char) :
    endsInWord (text ++ [c]) = !isBlank c := by
  simp [endsInWord]

theorem startsInWord_cons (c : Char) (rest : Text) : startsInWord (c :: rest) = !isBlank c := by
  rw [startsInWord, List.head?_cons, Option.any_some]

/-- What is put behind a text is counted on from the end of that text. -/
theorem wordCount_append_eq (first second : Text) :
    wordCount (first ++ second) = wordCount first + wordsFrom (endsInWord first) second := by
  -- From the end of the first text on, since its last character decides how the count goes on.
  induction first using List.reverseRecOn generalizing second with
  | nil => exact (Nat.zero_add _).symm
  | append_singleton others c ih =>
      have last : wordCount (others ++ [c]) =
          wordCount others + (if isBlank c || endsInWord others then 0 else 1) := by
        rw [ih, wordsFrom_cons, wordsFrom, Nat.add_zero]
      rw [List.append_assoc, List.singleton_append, ih, wordsFrom_cons, last, endsInWord_concat,
        Nat.add_assoc]

/-- Inside of a word the first word of a text that begins visibly is not counted. -/
theorem wordsFrom_true_add (text : Text) :
    wordsFrom true text + (if startsInWord text then 1 else 0) = wordCount text := by
  cases text with
  | nil => rfl
  | cons c rest =>
      rw [wordCount, wordsFrom_cons, wordsFrom_cons, startsInWord_cons]
      cases isBlank c with
      | true => rfl
      | false => simp [Nat.add_comm]

/-- The words of two texts are all counted, except that two words that meet become one. -/
theorem wordCount_append (first second : Text) :
    wordCount (first ++ second) + (if endsInWord first && startsInWord second then 1 else 0) =
      wordCount first + wordCount second := by
  rw [wordCount_append_eq, Nat.add_assoc]
  cases endsInWord first with
  | true => rw [Bool.true_and, wordsFrom_true_add]
  | false => rfl

/-- A character in front of a text may open a word or join the first one, but hides none. -/
theorem wordCount_le_cons (c : Char) (rest : Text) : wordCount rest ≤ wordCount (c :: rest) := by
  have counted := wordsFrom_true_add rest
  unfold wordCount at counted ⊢
  rw [wordsFrom_cons]
  cases isBlank c with
  | true => simp
  | false =>
      simp only [Bool.or_self, Bool.false_eq_true, ↓reduceIte, Bool.not_false]
      split at counted <;> omega

/-- A text put in front takes no words away. -/
theorem wordCount_le_append_right (first second : Text) :
    wordCount second ≤ wordCount (first ++ second) := by
  induction first with
  | nil => exact Nat.le_refl _
  | cons c rest ih => exact Nat.le_trans ih (wordCount_le_cons c (rest ++ second))

/-- A text put behind takes no words away. -/
theorem wordCount_le_append_left (first second : Text) :
    wordCount first ≤ wordCount (first ++ second) := by
  rw [wordCount_append_eq]
  exact Nat.le_add_right _ _

/-- Two texts have no more words together than they have apart. -/
theorem wordCount_append_le (first second : Text) :
    wordCount (first ++ second) ≤ wordCount first + wordCount second := by
  have counted := wordCount_append first second
  omega

/-! ## Blank characters between texts -/

/-- No word begins in blank characters. -/
theorem wordsFrom_of_blank (inside : Bool) {blanks : Text} (blank : blanks.isAllBlank = true) :
    wordsFrom inside blanks = 0 := by
  induction blanks generalizing inside with
  | nil => rfl
  | cons c rest ih =>
      rw [isAllBlank, List.all_cons, Bool.and_eq_true] at blank
      rw [wordsFrom_cons, blank.1]
      exact (Nat.zero_add _).trans (ih false blank.2)

/-- No word is open behind blank characters. -/
theorem endsInWord_append_blanks (text : Text) {blanks : Text} (filled : blanks ≠ [])
    (blank : blanks.isAllBlank = true) : endsInWord (text ++ blanks) = false := by
  have last : isBlank (blanks.getLast filled) = true :=
    List.all_eq_true.mp blank _ (List.getLast_mem filled)
  rw [endsInWord, List.getLast?_append, List.getLast?_eq_some_getLast filled, Option.some_or,
    Option.any_some, last]
  rfl

/-- Blank characters between two texts keep their words apart. -/
theorem wordCount_append_blanks (first second : Text) {blanks : Text} (filled : blanks ≠ [])
    (blank : blanks.isAllBlank = true) :
    wordCount (first ++ blanks ++ second) = wordCount first + wordCount second := by
  calc wordCount (first ++ blanks ++ second)
      = wordCount (first ++ blanks) + wordCount second := by
        rw [wordCount_append_eq, endsInWord_append_blanks first filled blank]
        rfl
    _ = wordCount first + wordCount second := by
        rw [wordCount_append_eq first, wordsFrom_of_blank _ blank, Nat.add_zero]

/-! ## Estimates -/

/-- Of texts with more words no fewer tokens are estimated. -/
theorem estimateTokens_mono {first second : Text} (fewer : wordCount first ≤ wordCount second) :
    estimateTokens first ≤ estimateTokens second := by
  unfold estimateTokens
  omega

/-- **The estimate is monotone and subadditive.** The estimate of a text is 1.33 times the number of
its words, rounded down, and one more. The estimate of two texts put together is at least that of each
of them and at most the sum of the two. With any blank characters between them, the number of words is
the sum of the two numbers. -/
theorem estimateTokens_append (first second : Text) :
    (∀ text, wordCount text = (words text).length ∧
      estimateTokens text = 133 * (words text).length / 100 + 1) ∧
    max (estimateTokens first) (estimateTokens second) ≤ estimateTokens (first ++ second) ∧
    estimateTokens (first ++ second) ≤ estimateTokens first + estimateTokens second ∧
    ∀ blanks : Text, blanks ≠ [] → blanks.isAllBlank = true →
      wordCount (first ++ blanks ++ second) = wordCount first + wordCount second := by
  refine ⟨fun text => ⟨wordCount_eq_length_words text, ?_⟩, Nat.max_le.mpr ⟨?_, ?_⟩, ?_,
    fun blanks filled blank => wordCount_append_blanks first second filled blank⟩
  · rw [estimateTokens, wordCount_eq_length_words]
  · exact estimateTokens_mono (wordCount_le_append_left first second)
  · exact estimateTokens_mono (wordCount_le_append_right first second)
  · have bounded := wordCount_append_le first second
    unfold estimateTokens
    omega

/-- The word `tea` meets the word `pot`, and all blank characters there are keep them apart. -/
theorem estimateTokens_append_of_tea_pot :
    let first := "the tea".toList
    let second := "pot is hot".toList
    let blanks : Text := ("\t\n\x0b\x0c\r \u0085\u00a0\u1680\u2000\u2001\u2002\u2003\u2004".toList ++
      "\u2005\u2006\u2007\u2008\u2009\u200a\u2028\u2029\u202f\u205f\u3000".toList)
    blanks ≠ [] ∧ blanks.isAllBlank = true ∧ words (first ++ second) =
        ["the".toList, "teapot".toList, "is".toList, "hot".toList] ∧
      estimateTokens first = 3 ∧ estimateTokens second = 4 ∧
      max (estimateTokens first) (estimateTokens second) ≤ estimateTokens (first ++ second) ∧
      estimateTokens (first ++ second) ≤ estimateTokens first + estimateTokens second ∧
      wordCount (first ++ blanks ++ second) = wordCount first + wordCount second := by
  intro first second blanks
  have filled : blanks ≠ [] := by decide +kernel
  have blank : blanks.isAllBlank = true := by decide +kernel
  have met : words (first ++ second) =
      ["the".toList, "teapot".toList, "is".toList, "hot".toList] := by decide +kernel
  have estimates : estimateTokens first = 3 ∧ estimateTokens second = 4 := by decide +kernel
  obtain ⟨_, larger, smaller, apart⟩ := estimateTokens_append first second
  exact ⟨filled, blank, met, estimates.1, estimates.2, larger, smaller, apart blanks filled blank⟩

end ThoughtJournal.Text
