import ThoughtJournal.Proofs.Scan.Parts

/-! # Comments by characters and by lines

Read character by character, a comment runs from the first beginning of a comment outside of comments
to the next end of one, or to the end of the text. The scanner reads line by line: it only asks of a
line whether the two marks occur in it. The two readings differ after a line that has the end of a
comment and yet leads into one, as `<!-- a --> <!-- b` does: the scanner takes the comment for ended.

Whether the scanner is inside of a comment can be told from the text before the line alone
(`Scan.hidesAfter`): a comment is open there, and the last line with the beginning of a comment has
not the end of one as well. So the thoughts of a journal are those of its lines outside of comments
and of the lines that are overlooked like this (`Scan.atomize_eq_read_lines`).
-/

namespace ThoughtJournal.Scan

/-! ## Reading character by character -/

/-- What ends a comment inside of one, and begins one outside. -/
def commentMark (inside : Bool) : Text := if inside then commentClosing else commentOpening

/-- Whether a comment is open after a text that is read from left to right, when one is or none is
open before it. -/
def commentOpen : Bool → Text → Bool
  | inside, [] => inside
  | true, '-' :: '-' :: '>' :: rest => commentOpen false rest
  | false, '<' :: '!' :: '-' :: '-' :: rest => commentOpen true rest
  | inside, _ :: rest => commentOpen inside rest

@[simp] theorem commentOpen_nil (inside : Bool) : commentOpen inside [] = inside := by
  cases inside <;> rfl

/-- A mark leads out of a comment or into one. -/
theorem commentOpen_mark (inside : Bool) (rest : Text) :
    commentOpen inside (commentMark inside ++ rest) = commentOpen (!inside) rest := by
  cases inside <;> rfl

/-- A character at which no mark stands makes no difference. -/
theorem commentOpen_cons {inside : Bool} {c : Char} {rest : Text}
    (unmarked : ¬ commentMark inside <+: c :: rest) :
    commentOpen inside (c :: rest) = commentOpen inside rest := by
  cases inside with
  | true =>
      rw [commentOpen.eq_4]
      · rintro tail - rfl rfl
        exact unmarked ⟨tail, rfl⟩
      · rintro tail ended
        cases ended
  | false =>
      rw [commentOpen.eq_4]
      · rintro tail ended
        cases ended
      · rintro tail - rfl rfl
        exact unmarked ⟨tail, rfl⟩

/-- Texts mark by mark. -/
theorem comment_induction {motive : Bool → Text → Prop} (nil : ∀ inside, motive inside [])
    (mark : ∀ inside rest, motive (!inside) rest → motive inside (commentMark inside ++ rest))
    (cons : ∀ inside c rest, ¬ commentMark inside <+: c :: rest → motive inside rest →
      motive inside (c :: rest)) (inside : Bool) (text : Text) : motive inside text := by
  induction size : text.length using Nat.strongRecOn generalizing inside text with
  | ind bound ih =>
      cases text with
      | nil => exact nil inside
      | cons c rest =>
          by_cases marked : commentMark inside <+: c :: rest
          · obtain ⟨tail, split⟩ := marked
            have filled : 0 < (commentMark inside).length := by cases inside <;> decide
            have shorter : tail.length < bound := by
              rw [← size, ← split, List.length_append]
              omega
            rw [← split]
            exact mark inside tail (ih _ shorter (!inside) tail rfl)
          · have shorter : rest.length < bound := size ▸ Nat.lt_succ_self rest.length
            exact cons inside c rest marked (ih _ shorter inside rest rfl)

/-- A text without the mark that is waited for changes nothing. -/
theorem commentOpen_of_no_mark {inside : Bool} {text : Text}
    (absent : ¬ commentMark inside <:+: text) : commentOpen inside text = inside := by
  induction text with
  | nil => exact commentOpen_nil inside
  | cons c rest ih =>
      obtain ⟨unmarked, later⟩ := not_or.mp (List.infix_cons_iff.not.mp absent)
      rw [commentOpen_cons unmarked, ih later]

/-- After the mark that is waited for nothing changes any more without the other one. -/
theorem commentOpen_of_mark {inside : Bool} {text : Text}
    (present : commentMark inside <:+: text) (absent : ¬ commentMark (!inside) <:+: text) :
    commentOpen inside text = !inside := by
  induction text with
  | nil =>
      have empty := List.infix_nil.mp present
      cases inside <;> cases empty
  | cons c rest ih =>
      by_cases marked : commentMark inside <+: c :: rest
      · obtain ⟨tail, split⟩ := marked
        have later : ¬ commentMark (!inside) <:+: tail := fun occurs =>
          absent (split ▸ occurs.trans (List.suffix_append _ _).isInfix)
        rw [← split, commentOpen_mark, commentOpen_of_no_mark later]
      · have others := (List.infix_cons_iff.mp present).resolve_left marked
        rw [commentOpen_cons marked]
        exact ih others fun occurs => absent (occurs.trans (List.suffix_cons c rest).isInfix)

/-- No mark goes over the end of a line. -/
theorem line_feed_not_mem_commentMark (inside : Bool) : '\n' ∉ commentMark inside := by
  cases inside <;> decide

/-- What does not contain a line feed does not go on in the next line. -/
theorem prefix_of_prefix_line_feed {part text rest : Text} (free : '\n' ∉ part)
    (starts : part <+: text ++ '\n' :: rest) : part <+: text := by
  rcases List.prefix_or_prefix_of_prefix starts (List.prefix_append text _) with within | ⟨tail, rfl⟩
  · exact within
  · cases tail with
    | nil => exact ⟨[], by rw [List.append_nil, List.append_nil]⟩
    | cons c others =>
        obtain ⟨same, _⟩ := List.cons_prefix_cons.mp ((List.prefix_append_right_inj text).mp starts)
        exact absurd (List.mem_append_right text (same ▸ List.mem_cons_self)) free

/-- No mark goes on in the next line. -/
theorem commentOpen_line_feed (inside : Bool) (text rest : Text) :
    commentOpen inside (text ++ '\n' :: rest) = commentOpen (commentOpen inside text) rest := by
  induction inside, text using comment_induction with
  | nil inside =>
      refine (commentOpen_cons fun marked => ?_).trans (by rw [commentOpen_nil])
      have within : commentMark inside <+: [] :=
        prefix_of_prefix_line_feed (line_feed_not_mem_commentMark inside) marked
      cases inside <;> cases List.prefix_nil.mp within
  | mark inside tail ih => rw [List.append_assoc, commentOpen_mark, commentOpen_mark, ih]
  | cons inside c tail unmarked ih =>
      rw [commentOpen_cons unmarked, ← ih]
      exact commentOpen_cons fun marked =>
        unmarked (prefix_of_prefix_line_feed (line_feed_not_mem_commentMark inside) marked)

/-! ## Lines at their places -/

/-- A line of a text and the text up to its beginning. -/
structure PlacedLine where
  before : Text
  line : Text
deriving DecidableEq, Repr

/-- The lines of the rest of a text, after the text `before` and the first characters `current` of
a line. -/
def placedLinesFrom (before current : Text) : Text → List PlacedLine
  | [] => if current.isEmpty then [] else [⟨before, current⟩]
  | c :: rest =>
      if c = '\n' then
        ⟨before, Text.withoutReturn current⟩ :: placedLinesFrom (before ++ current ++ ['\n']) [] rest
      else placedLinesFrom before (current ++ [c]) rest

/-- The lines of a text. -/
def placedLines (body : Text) : List PlacedLine := placedLinesFrom [] [] body

/-- A text after which a line begins. -/
def EndsLine (before : Text) : Prop := before = [] ∨ ∃ earlier, before = earlier ++ ['\n']

theorem endsLine_line_feed (before : Text) : EndsLine (before ++ ['\n']) := Or.inr ⟨before, rfl⟩

/-- Characters other than line feeds are added to the current line. -/
theorem placedLinesFrom_append {line : Text} (free : '\n' ∉ line) (before current rest : Text) :
    placedLinesFrom before current (line ++ rest) =
      placedLinesFrom before (current ++ line) rest := by
  induction line generalizing current with
  | nil => rw [List.nil_append, List.append_nil]
  | cons c others ih =>
      obtain ⟨different, freeOthers⟩ := not_or.mp (List.mem_cons.not.mp free)
      rw [List.cons_append, placedLinesFrom, if_neg (Ne.symm different), ih freeOthers,
        List.append_assoc, List.singleton_append]

/-- The first line feed ends the first line, and the next one begins after it. -/
theorem placedLinesFrom_line_feed {line : Text} (free : '\n' ∉ line) (before rest : Text) :
    placedLinesFrom before [] (line ++ '\n' :: rest) =
      ⟨before, Text.withoutReturn line⟩ :: placedLinesFrom (before ++ line ++ ['\n']) [] rest := by
  rw [placedLinesFrom_append free, List.nil_append, placedLinesFrom, if_pos rfl]

/-- A text without a line feed is one line, if it is any. -/
theorem placedLinesFrom_of_free {line : Text} (free : '\n' ∉ line) (before : Text) :
    placedLinesFrom before [] line = if line = [] then [] else [⟨before, line⟩] := by
  have whole := placedLinesFrom_append free before [] []
  rw [List.append_nil, List.nil_append] at whole
  rw [whole, placedLinesFrom]
  simp only [List.isEmpty_iff]

/-- The lines with their places are the lines of the text. -/
theorem map_line_placedLinesFrom (before body : Text) :
    (placedLinesFrom before [] body).map PlacedLine.line = Text.lines body := by
  induction body using Text.line_induction generalizing before with
  | last line free =>
      rw [placedLinesFrom_of_free free, Text.lines_of_free free]
      split <;> rfl
  | more line rest free ih =>
      rw [placedLinesFrom_line_feed free, Text.lines_of_line_feed free, List.map_cons, ih]

/-- Every line stands at its place. -/
theorem endsLine_placedLinesFrom {before body : Text} (ends : EndsLine before) :
    ∀ place ∈ placedLinesFrom before [] body,
      EndsLine place.before ∧ place.before ++ place.line <+: before ++ body := by
  induction body using Text.line_induction generalizing before with
  | last line free =>
      intro place member
      rw [placedLinesFrom_of_free free] at member
      split at member
      · exact absurd member List.not_mem_nil
      · rw [List.mem_singleton.mp member]
        exact ⟨ends, List.prefix_refl _⟩
  | more line rest free ih =>
      intro place member
      rw [placedLinesFrom_line_feed free] at member
      rcases List.mem_cons.mp member with rfl | later
      · refine ⟨ends, (List.prefix_append_right_inj before).mpr ?_⟩
        exact (Text.withoutReturn_prefix line).trans (List.prefix_append _ _)
      · obtain ⟨endsLater, placed⟩ := ih (endsLine_line_feed _) place later
        refine ⟨endsLater, ?_⟩
        rwa [List.append_assoc, List.append_assoc, List.singleton_append] at placed

/-! ## Lines that overlap comments -/

/-- A line that begins inside of a comment or has the beginning of one. -/
def PlacedLine.overlapsComment (place : PlacedLine) : Bool :=
  commentOpen false place.before || opensComment place.line

/-- The last line with the beginning of a comment has the end of one as well. -/
def lastOpeningCloses (lines : List Text) : Bool :=
  (lines.reverse.find? opensComment).any closesComment

/-- A line without the beginning of a comment, before which the last line with one has the end of a
comment as well. -/
def PlacedLine.isOverlooked (place : PlacedLine) : Bool :=
  !opensComment place.line && lastOpeningCloses (Text.lines place.before)

/-- A line outside of comments, or one that is overlooked. -/
def PlacedLine.isRead (place : PlacedLine) : Bool :=
  !place.overlapsComment || place.isOverlooked

/-- Whether the scanner is inside of a comment after a text. -/
def hidesAfter (before : Text) : Bool :=
  commentOpen false before && !lastOpeningCloses (Text.lines before)

/-- A line is read if and only if the text before it does not hide it and no comment begins in
it. -/
theorem isRead_eq (place : PlacedLine) :
    place.isRead = !(hidesAfter place.before || opensComment place.line) := by
  unfold PlacedLine.isRead PlacedLine.overlapsComment PlacedLine.isOverlooked hidesAfter
  cases commentOpen false place.before <;> cases opensComment place.line <;>
    cases lastOpeningCloses (Text.lines place.before) <;> rfl

/-- One more line counts if a comment begins in it, and otherwise the lines before it do. -/
theorem lastOpeningCloses_concat (lines : List Text) (line : Text) :
    lastOpeningCloses (lines ++ [line]) =
      if opensComment line then closesComment line else lastOpeningCloses lines := by
  unfold lastOpeningCloses
  rw [List.reverse_append, List.reverse_singleton, List.singleton_append, List.find?_cons]
  cases opensComment line <;> rfl

/-! ## From line to line -/

/-- The lines of a text that is cut where a line begins. -/
theorem lines_append_of_endsLine {before : Text} (ends : EndsLine before) (rest : Text) :
    Text.lines (before ++ rest) = Text.lines before ++ Text.lines rest := by
  rcases ends with rfl | ⟨earlier, rfl⟩
  · rfl
  · rw [List.append_assoc, List.singleton_append, Text.lines_append_line_feed]

/-- Where a line begins a text can be cut, since no mark goes over the cut. -/
theorem commentOpen_append_of_endsLine {before : Text} (ends : EndsLine before) (inside : Bool)
    (rest : Text) :
    commentOpen inside (before ++ rest) = commentOpen (commentOpen inside before) rest := by
  rcases ends with rfl | ⟨earlier, rfl⟩
  · rw [List.nil_append, commentOpen_nil]
  · rw [List.append_assoc, List.singleton_append, commentOpen_line_feed, commentOpen_line_feed,
      commentOpen_nil]

/-- A line with the beginning of a comment and without an end leads into a comment. -/
theorem commentOpen_of_opens {line : Text} (opens : opensComment line = true)
    (unclosed : closesComment line = false) (inside : Bool) : commentOpen inside line = true := by
  have present : commentMark false <:+: line := Text.occursIn_iff.mp opens
  have absent : ¬ commentMark true <:+: line := fun occurs =>
    Bool.false_ne_true (unclosed.symm.trans (Text.occursIn_iff.mpr occurs))
  cases inside with
  | true => exact commentOpen_of_no_mark absent
  | false => exact commentOpen_of_mark present absent

/-- Without the beginning of a comment, a line leads out of one if it has an end. -/
theorem commentOpen_of_no_opening {line : Text} (visible : opensComment line = false)
    (inside : Bool) : commentOpen inside line = (inside && !closesComment line) := by
  have absent : ¬ commentMark false <:+: line := fun occurs =>
    Bool.false_ne_true (visible.symm.trans (Text.occursIn_iff.mpr occurs))
  cases inside with
  | false => exact commentOpen_of_no_mark absent
  | true =>
      cases closes : closesComment line with
      | true => exact commentOpen_of_mark (Text.occursIn_iff.mp closes) absent
      | false =>
          exact commentOpen_of_no_mark fun occurs =>
            Bool.false_ne_true (closes.symm.trans (Text.occursIn_iff.mpr occurs))

/-- **The rule of the scanner.** Whether it is inside of a comment after a line can be told from
whether it was before and from the marks that occur in the line. -/
theorem hidesAfter_line {before line : Text} (ends : EndsLine before) (free : '\n' ∉ line) :
    hidesAfter (before ++ line ++ ['\n']) =
      ((hidesAfter before || opensComment line) && !closesComment line) := by
  have lines : Text.lines (before ++ line ++ ['\n']) =
      Text.lines before ++ [Text.withoutReturn line] := by
    rw [List.append_assoc, lines_append_of_endsLine ends, Text.lines_of_line_feed free,
      Text.lines_nil]
  have flag : commentOpen false (before ++ line ++ ['\n']) =
      commentOpen (commentOpen false before) line := by
    rw [List.append_assoc, commentOpen_append_of_endsLine ends, commentOpen_line_feed,
      commentOpen_nil]
  unfold hidesAfter
  rw [lines, flag, lastOpeningCloses_concat, opensComment_withoutReturn,
    closesComment_withoutReturn]
  cases opens : opensComment line with
  | true =>
      cases closes : closesComment line with
      | true => simp only [↓reduceIte, Bool.not_true, Bool.and_false]
      | false =>
          simp only [commentOpen_of_opens opens closes, ↓reduceIte, Bool.not_false, Bool.or_true,
            Bool.and_true]
  | false =>
      rw [commentOpen_of_no_opening opens, if_neg Bool.false_ne_true, Bool.or_false,
        Bool.and_right_comm]

/-- A line that the scanner reads is read as outside of comments, and another one only decides
whether the scanner is inside of a comment. -/
theorem run_placed {state : State} (place : PlacedLine)
    (flag : state.inComment = hidesAfter place.before) {others shown : List Text}
    (rest : ∀ next : State,
      next.inComment = ((hidesAfter place.before || opensComment place.line) &&
        !closesComment place.line) →
      next.run others = ({ next with inComment := false } : State).run shown) :
    state.run (place.line :: others) =
      ({ state with inComment := false } : State).run
        ((if place.isRead then [place.line] else []) ++ shown) := by
  rw [isRead_eq, ← flag]
  rw [← flag] at rest
  by_cases hidden : state.inComment = true ∨ opensComment place.line = true
  · have passed := Bool.or_eq_true_iff.mpr hidden
    rw [State.run_cons, step_of_comment hidden, passed, rest]
    · rfl
    · rw [passed, Bool.true_and]
  · have unmarked := Bool.eq_false_iff.mpr (Bool.or_eq_true_iff.not.mpr hidden)
    obtain ⟨outside, visible⟩ := Bool.or_eq_false_iff.mp unmarked
    have same : ({ state with inComment := false } : State) = state := by rw [← outside]
    have next : (state.step place.line).1.inComment = false := inComment_step outside visible
    have kept : ({ (state.step place.line).1 with inComment := false } : State) =
        (state.step place.line).1 := by rw [← next]
    rw [unmarked, same, State.run_cons, rest _ (by rw [next, unmarked, Bool.false_and]), kept]
    rfl

/-! ## The lines that are read -/

def readLines (places : List PlacedLine) : List Text :=
  (places.filter PlacedLine.isRead).map PlacedLine.line

theorem readLines_cons (place : PlacedLine) (places : List PlacedLine) :
    readLines (place :: places) =
      (if place.isRead then [place.line] else []) ++ readLines places := by
  unfold readLines
  rw [List.filter_cons]
  split <;> rfl

/-- From the beginning of a line, the scanner reads the rest of a text as the lines that are read. -/
theorem run_eq_run_readLines {before : Text} (ends : EndsLine before) {state : State}
    (flag : state.inComment = hidesAfter before) (body : Text) :
    state.run (Text.lines body) =
      ({ state with inComment := false } : State).run
        (readLines (placedLinesFrom before [] body)) := by
  have finished : ∀ next : State,
      next.run [] = ({ next with inComment := false } : State).run [] := fun _ =>
    congrArg Option.toList (finish_eq_of_buffer rfl rfl)
  induction body using Text.line_induction generalizing before state with
  | last line free =>
      rw [Text.lines_of_free free, placedLinesFrom_of_free free]
      by_cases empty : line = []
      · rw [if_pos empty, if_pos empty]
        exact finished state
      · rw [if_neg empty, if_neg empty, readLines_cons]
        exact run_placed ⟨before, line⟩ flag fun next _ => finished next
  | more line rest free ih =>
      rw [Text.lines_of_line_feed free, placedLinesFrom_line_feed free, readLines_cons]
      refine run_placed ⟨before, Text.withoutReturn line⟩ flag fun next inside => ?_
      refine ih (endsLine_line_feed _) ?_
      rw [inside, hidesAfter_line ends free, opensComment_withoutReturn,
        closesComment_withoutReturn]

/-- **What comments hide.** Whatever the taxonomy and the date, the thoughts of a journal are those
of its lines that do not overlap a comment or are overlooked. So the other lines that overlap a
comment, wholly or in part, contribute nothing and change neither section nor category. -/
theorem atomize_eq_read_lines (taxonomy : Taxonomy) (date body : Text) :
    (placedLines body).map PlacedLine.line = Text.lines body ∧
    (∀ place ∈ placedLines body,
      EndsLine place.before ∧ place.before ++ place.line <+: body) ∧
    taxonomy.atomize date body =
      (State.start.run (readLines (placedLines body))).map (taxonomy.thoughtOf date) := by
  have start : EndsLine [] := Or.inl rfl
  refine ⟨map_line_placedLinesFrom [] body, endsLine_placedLinesFrom start, ?_⟩
  exact congrArg (List.map _) (run_eq_run_readLines start rfl body)

/-- A comment that begins on the line where another one ends does not hide the lines after it: a
thought is taken from one, and another one changes the category of what follows the comment. -/
theorem reopened_comment_leaks :
    let body := "## Area\n<!-- a --> <!-- b\n- hidden\n## Project\n-->\n- kept".toList
    let opened := "## Area\n<!-- a --> <!-- b\n".toList
    let taxonomy : Taxonomy := ⟨Dictionary.empty⟩
    let outside := ((placedLines body).filter fun place =>
      !place.overlapsComment).map PlacedLine.line
    ⟨opened, "- hidden".toList⟩ ∈ placedLines body ∧
      ⟨opened ++ "- hidden\n".toList, "## Project".toList⟩ ∈ placedLines body ∧
      commentOpen false opened = true ∧
      commentOpen false (opened ++ "- hidden\n## Project".toList) = true ∧
      State.start.run outside = [⟨"kept".toList, .area⟩] ∧
      (taxonomy.atomize ['1'] body).map (fun thought => (thought.content, thought.category)) =
        [("hidden".toList, .area), ("->".toList, .project), ("kept".toList, .project)] := by
  intro body opened taxonomy outside
  refine ⟨?_, ?_, ?_, ?_, ?_, ?_⟩ <;> decide +kernel

end ThoughtJournal.Scan
