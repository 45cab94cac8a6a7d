import ThoughtJournal.Proofs.Scan.Parts

/-! # The layout of a journal

The scanner decides on a line by its trimmed form: the marks of a comment have no blank characters, so
they occur in a line if they occur in the trimmed line, and everything else is read off the trimmed
line anyway (`Scan.step_trim`). A blank line is passed over in every state, also inside of comments.
So two journals with the same visible lines give the same thoughts (`Scan.atomize_of_layout`).

Layout is what the visible lines leave out: blank characters next to a line feed or at one of the ends
of a journal make no difference to them, and line feeds count as blank characters there. This covers
the two kinds of line ends, indentation, spaces at the end of a line, blank lines and the line feed
with which a program ends its output.
-/

namespace ThoughtJournal

/-! ## Visible lines -/

namespace Text

/-- Trimmed lines, less the ones without a visible character. -/
def trimmedLines (lines : List Text) : List Text := (lines.map trim).filter fun line => line ≠ []

/-- The lines of a text up to its layout. -/
def visibleLines (text : Text) : List Text := trimmedLines (lines text)

/-- A text with a carriage return before every line feed. -/
def withReturns (text : Text) : Text :=
  text.flatMap fun c => if c = '\n' then ['\r', '\n'] else [c]

theorem trimmedLines_cons (line : Text) (rest : List Text) :
    trimmedLines (line :: rest) = trimmedLines [line] ++ trimmedLines rest := by
  unfold trimmedLines
  rw [← List.filter_append, ← List.map_append]
  rfl

theorem trimmedLines_singleton_congr {left right : Text} (same : trim left = trim right) :
    trimmedLines [left] = trimmedLines [right] := by
  unfold trimmedLines
  rw [List.map_singleton, List.map_singleton, same]

/-- A text without a line feed has its trimmed form as its only visible line. -/
theorem visibleLines_of_free {line : Text} (free : '\n' ∉ line) :
    visibleLines line = trimmedLines [line] := by
  unfold visibleLines
  rw [lines_of_free free]
  split
  · rename_i empty
    rw [empty]
    rfl
  · rfl

/-- The first line feed ends the first line, a carriage return before it or not. -/
theorem visibleLines_of_line_feed {line : Text} (free : '\n' ∉ line) (rest : Text) :
    visibleLines (line ++ '\n' :: rest) = trimmedLines [line] ++ visibleLines rest := by
  unfold visibleLines
  rw [lines_of_line_feed free, trimmedLines_cons,
    trimmedLines_singleton_congr (trim_withoutReturn line)]

/-- Two texts with a line feed between them have the visible lines of the one and of the other. -/
theorem visibleLines_append_line_feed (first second : Text) :
    visibleLines (first ++ '\n' :: second) = visibleLines first ++ visibleLines second := by
  induction first using line_induction with
  | last line free => rw [visibleLines_of_line_feed free, visibleLines_of_free free]
  | more line rest free ih =>
      rw [List.append_assoc, List.cons_append, visibleLines_of_line_feed free, ih,
        visibleLines_of_line_feed free, List.append_assoc]

/-! ## Blank characters at the ends -/

/-- A blank character at the start does not count, and be it a line feed. -/
theorem visibleLines_cons_of_blank {c : Char} (blank : isBlank c = true) (text : Text) :
    visibleLines (c :: text) = visibleLines text := by
  by_cases feed : c = '\n'
  · subst feed
    exact visibleLines_append_line_feed [] text
  · have trimmed : ∀ line, trimmedLines [c :: line] = trimmedLines [line] := fun line =>
      trimmedLines_singleton_congr (trim_cons_of_blank blank line)
    have free : ∀ line, '\n' ∉ line → '\n' ∉ c :: line := fun line freeLine feeds =>
      (List.mem_cons.mp feeds).elim (fun same => feed same.symm) freeLine
    induction text using line_induction with
    | last line freeLine =>
        rw [visibleLines_of_free (free line freeLine), visibleLines_of_free freeLine, trimmed]
    | more line rest freeLine =>
        rw [← List.cons_append, visibleLines_of_line_feed (free line freeLine),
          visibleLines_of_line_feed freeLine, trimmed]

/-- A blank character at the end does not count, and be it a line feed. -/
theorem visibleLines_concat_of_blank {c : Char} (blank : isBlank c = true) (text : Text) :
    visibleLines (text ++ [c]) = visibleLines text := by
  by_cases feed : c = '\n'
  · subst feed
    rw [visibleLines_append_line_feed text []]
    exact List.append_nil _
  · induction text using line_induction with
    | last line freeLine =>
        have free : '\n' ∉ line ++ [c] := fun feeds =>
          (List.mem_append.mp feeds).elim freeLine fun last =>
            feed (List.mem_singleton.mp last).symm
        rw [visibleLines_of_free free, visibleLines_of_free freeLine]
        exact trimmedLines_singleton_congr (trim_concat_of_blank blank line)
    | more line rest freeLine ih =>
        rw [List.append_assoc, List.cons_append, visibleLines_of_line_feed freeLine, ih,
          visibleLines_of_line_feed freeLine]

/-- Blank characters at the beginning of a text are layout. -/
theorem visibleLines_blanks_append {blanks : Text} (blank : blanks.isAllBlank = true)
    (text : Text) : visibleLines (blanks ++ text) = visibleLines text := by
  induction blanks with
  | nil => rfl
  | cons c others ih =>
      obtain ⟨first, rest⟩ := Bool.and_eq_true_iff.mp blank
      rw [List.cons_append, visibleLines_cons_of_blank first, ih rest]

/-- Blank characters at the end of a text are layout. -/
theorem visibleLines_append_blanks {blanks : Text} (blank : blanks.isAllBlank = true)
    (text : Text) : visibleLines (text ++ blanks) = visibleLines text := by
  induction blanks generalizing text with
  | nil => rw [List.append_nil]
  | cons c others ih =>
      obtain ⟨first, rest⟩ := Bool.and_eq_true_iff.mp blank
      rw [List.append_cons, ih rest, visibleLines_concat_of_blank first]

theorem withReturns_of_free {line : Text} (free : '\n' ∉ line) : withReturns line = line := by
  induction line with
  | nil => rfl
  | cons c others ih =>
      obtain ⟨different, freeOthers⟩ := not_or.mp (List.mem_cons.not.mp free)
      unfold withReturns at ih ⊢
      rw [List.flatMap_cons, if_neg (Ne.symm different), ih freeOthers]
      rfl

theorem withReturns_of_line_feed {line : Text} (free : '\n' ∉ line) (rest : Text) :
    withReturns (line ++ '\n' :: rest) = line ++ ['\r'] ++ '\n' :: withReturns rest := by
  have kept := withReturns_of_free free
  unfold withReturns at kept ⊢
  rw [List.flatMap_append, kept, List.flatMap_cons, if_pos rfl, List.append_assoc]
  rfl

/-- The kind of the line ends is layout. -/
theorem visibleLines_withReturns (text : Text) :
    visibleLines (withReturns text) = visibleLines text := by
  induction text using line_induction with
  | last line free => rw [withReturns_of_free free]
  | more line rest free ih =>
      rw [withReturns_of_line_feed free, visibleLines_append_line_feed, ih,
        visibleLines_concat_of_blank (by decide), visibleLines_append_line_feed]

end Text

/-! ## Reading visible lines -/

namespace Scan

/-- A line is read like its trimmed form. -/
theorem step_trim (state : State) (line : Text) :
    state.step (Text.trim line) = state.step line := by
  unfold State.step
  rw [Text.trim_trim, Text.occursIn_trim (by decide), Text.occursIn_trim (by decide)]

/-- A scanner reads the trimmed lines that are not blank. -/
theorem run_trimmedLines (state : State) (lines : List Text) :
    state.run (Text.trimmedLines lines) = state.run lines := by
  induction lines generalizing state with
  | nil => rfl
  | cons line rest ih =>
      rw [Text.trimmedLines_cons]
      by_cases blank : Text.trim line = []
      · have none : Text.trimmedLines [line] = [] := by
          rw [Text.trimmedLines, List.map_singleton, blank]
          rfl
        rw [none, List.nil_append, ih, State.run_cons, ← step_trim, blank, step_nil]
        rfl
      · have kept : Text.trimmedLines [line] = [Text.trim line] := by
          rw [Text.trimmedLines, List.map_singleton, List.filter_singleton, decide_eq_true blank,
            cond_true]
        rw [kept, List.singleton_append, State.run_cons, State.run_cons, step_trim, ih]

/-- Texts with the same visible lines have the same pieces. -/
theorem pieces_of_visibleLines {first second : Text}
    (alike : Text.visibleLines first = Text.visibleLines second) :
    pieces first = pieces second := by
  unfold pieces
  rw [← run_trimmedLines, ← run_trimmedLines _ (Text.lines second)]
  exact congrArg State.start.run alike

/-- **Layout makes no difference.** Whatever the taxonomy and the date, two journals whose lines become
equal when they are trimmed and the blank ones are left out give the same thoughts. So a journal gives
the same thoughts with a carriage return before every line feed, and with any blank characters, line
feeds among them, added before it, after it, after a line feed of it or before one. -/
theorem atomize_of_layout (taxonomy : Taxonomy) (date : Text) :
    (∀ first second : Text, Text.visibleLines first = Text.visibleLines second →
      taxonomy.atomize date first = taxonomy.atomize date second) ∧
    (∀ body : Text, taxonomy.atomize date (Text.withReturns body) = taxonomy.atomize date body) ∧
    ∀ blanks first second : Text, blanks.isAllBlank = true →
      taxonomy.atomize date (blanks ++ first) = taxonomy.atomize date first ∧
      taxonomy.atomize date (first ++ blanks) = taxonomy.atomize date first ∧
      taxonomy.atomize date (first ++ '\n' :: (blanks ++ second)) =
        taxonomy.atomize date (first ++ '\n' :: second) ∧
      taxonomy.atomize date (first ++ (blanks ++ '\n' :: second)) =
        taxonomy.atomize date (first ++ '\n' :: second) := by
  have alike : ∀ first second : Text, Text.visibleLines first = Text.visibleLines second →
      taxonomy.atomize date first = taxonomy.atomize date second := by
    intro first second same
    unfold Taxonomy.atomize
    rw [pieces_of_visibleLines same]
  refine ⟨alike, fun body => alike _ _ (Text.visibleLines_withReturns body), ?_⟩
  intro blanks first second blank
  refine ⟨alike _ _ (Text.visibleLines_blanks_append blank first),
    alike _ _ (Text.visibleLines_append_blanks blank first), alike _ _ ?_, alike _ _ ?_⟩
  · rw [Text.visibleLines_append_line_feed, Text.visibleLines_blanks_append blank,
      Text.visibleLines_append_line_feed]
  · rw [← List.append_assoc, Text.visibleLines_append_line_feed,
      Text.visibleLines_append_blanks blank, Text.visibleLines_append_line_feed]

/-- A comment over several lines and a thought over two, once with carriage returns, an ideographic
space and blank lines, and once without. -/
theorem atomize_of_layout_around_comment :
    let first := "\r\n  ## Area\t\r\n<!-- x\r\n\r\n  -->  \r\n\u3000- a\r\n\n   b\r\n".toList
    let second := "## Area\n<!-- x\n-->\n- a\nb".toList
    let blanks : Text := "\n\u3000\r\n".toList
    let taxonomy : Taxonomy := ⟨Dictionary.empty⟩
    Text.visibleLines first = Text.visibleLines second ∧ blanks.isAllBlank = true ∧
      (taxonomy.atomize ['1'] second).map Thought.content = ["a\nb".toList] ∧
      taxonomy.atomize ['1'] first = taxonomy.atomize ['1'] second ∧
      taxonomy.atomize ['1'] (second ++ blanks) = taxonomy.atomize ['1'] second := by
  intro first second blanks taxonomy
  have alike : Text.visibleLines first = Text.visibleLines second := by decide +kernel
  have blank : blanks.isAllBlank = true := by decide
  obtain ⟨same, _, padded⟩ := atomize_of_layout taxonomy ['1']
  exact ⟨alike, blank, by decide +kernel, same first second alike,
    (padded blanks second [] blank).2.1⟩

end Scan

end ThoughtJournal
