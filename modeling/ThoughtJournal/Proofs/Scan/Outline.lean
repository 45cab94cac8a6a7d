import ThoughtJournal.Atomizer

/-! # The outline of a journal

A journal read in passes instead of line by line: the lines of comments are deleted, the others are
cut into sections at the headings, a section is cut off at its first rule, its blank lines and its
checklist items are dropped, what is left is cut into groups at the bullets, and every group gives at
most one content. The scanner gives exactly the pieces of this outline
(`Scan.pieces_eq_outline`, `Scan.atomize_eq_outline`).

The proof runs the scanner over lines without comments. While a section is captured, the buffer holds
the lines of the group that is open, so the rest of the section gives the pieces of `pending`.
-/

namespace ThoughtJournal.Scan

/-! ## Comments -/

/-- A line with the beginning of a comment. -/
def opensComment (line : Text) : Bool := Text.occursIn commentOpening line

/-- A line with the end of a comment. -/
def closesComment (line : Text) : Bool := Text.occursIn commentClosing line

/-- The lines outside of comments. A line that opens a comment is deleted, and unless it closes the
comment as well, so are the lines after it up to the first one that does. -/
def withoutComments : List Text → List Text
  | [] => []
  | line :: rest =>
      if opensComment line then
        if closesComment line then withoutComments rest
        else withoutComments ((rest.dropWhile fun line => !closesComment line).drop 1)
      else line :: withoutComments rest
termination_by lines => lines.length
decreasing_by
  · simp
  · have shorter := (List.dropWhile_suffix (l := rest) fun line => !closesComment line).length_le
    simp only [List.length_drop, List.length_cons]
    omega
  · simp

/-! ## Sections -/

/-- A trimmed heading and the lines up to the next heading. -/
structure Section where
  heading : Text
  lines : List Text

/-- The sections of a list of lines; what comes before the first heading belongs to none. -/
def sections : List Text → List Section
  | [] => []
  | line :: rest =>
      if isHeading (Text.trim line) then
        ⟨Text.trim line, rest.takeWhile fun line => !isHeading (Text.trim line)⟩ :: sections rest
      else sections rest

/-- The lines before the first rule, without blank lines and checklist items. -/
def noteLines (lines : List Text) : List Text :=
  (lines.takeWhile fun line => !isRule (Text.trim line)).filter fun line =>
    !(Text.trim line).isEmpty && !isChecklistItem (Text.trim line)

/-! ## Groups -/

/-- The lines before the first bullet. -/
def leadingGroup (lines : List Text) : List Text :=
  lines.takeWhile fun line => !isBullet (Text.trim line)

/-- Every line with a bullet, followed by the lines up to the next one. -/
def bulletGroups : List Text → List (List Text)
  | [] => []
  | line :: rest =>
      if isBullet (Text.trim line) then (line :: leadingGroup rest) :: bulletGroups rest
      else bulletGroups rest

/-- A text without a part that stands at its start. -/
def withoutLead (lead text : Text) : Text :=
  if lead.isPrefixOf text then text.drop lead.length else text

/-- A trimmed line without its bullet: a dash and a space, or else a dash. -/
def note (line : Text) : Text :=
  let trimmed := Text.trim line
  if ['-', ' '].isPrefixOf trimmed then withoutLead ['-', ' '] trimmed
  else withoutLead ['-'] trimmed

/-- The notes of a group that are not empty. -/
def notes (group : List Text) : List Text := (group.map note).filter fun note => note ≠ []

/-- The content of a group: its notes joined and trimmed, without a dash and a space that stand at
the start even now. A dash, a star and nothing are no content. -/
def groupContent? (group : List Text) : Option Text :=
  let joined := Text.trim (Text.join ['\n'] (notes group))
  let content := if joined = ['-'] then [] else Text.trim (withoutLead ['-', ' '] joined)
  if content = [] ∨ content = ['*'] then none else some content

/-- The pieces of a section, if its heading names a category. -/
def Section.pieces (part : Section) : List Piece :=
  match sectionCategory? part.heading with
  | none => []
  | some category =>
      let lines := noteLines part.lines
      ((leadingGroup lines :: bulletGroups lines).filterMap groupContent?).map fun content =>
        ⟨content, category⟩

/-- The pieces of a journal, read in passes. -/
def outline (body : Text) : List Piece :=
  (sections (withoutComments (Text.lines body))).flatMap Section.pieces

/-! ## Notes and contents -/

theorem withoutLead_dash_space (text : Text) :
    withoutLead ['-', ' '] text = withoutDashSpace text := by
  unfold withoutDashSpace
  split
  · simp [withoutLead]
  · rename_i other
    have absent : ['-', ' '].isPrefixOf text = false := by
      rw [Bool.eq_false_iff]
      intro starts
      obtain ⟨rest, rfl⟩ := List.isPrefixOf_iff_prefix.mp starts
      exact other rest rfl
    simp [withoutLead, absent]

/-- The note of a line is the trimmed line without its bullet. -/
theorem note_eq (line : Text) : note line = withoutBullet (Text.trim line) := by
  unfold note
  generalize Text.trim line = trimmed
  unfold withoutBullet
  split
  · simp [withoutLead]
  · rename_i rest other
    have absent : ['-', ' '].isPrefixOf ('-' :: rest) = false := by
      rw [Bool.eq_false_iff]
      intro starts
      obtain ⟨tail, spelled⟩ := List.isPrefixOf_iff_prefix.mp starts
      exact other tail (by simpa using spelled.symm)
    simp [withoutLead, absent]
  · rename_i noDash noDashSpace
    cases trimmed with
    | nil => rfl
    | cons c rest =>
        have different : c ≠ '-' := fun same => noDashSpace rest (same ▸ rfl)
        simp [withoutLead, List.isPrefixOf, Ne.symm different]

/-- The content of a group is the content of its notes. -/
theorem groupContent?_eq (group : List Text) :
    groupContent? group = content? (notes group) := by
  simp only [groupContent?, content?, withoutLead_dash_space, List.isEmpty_iff, Bool.or_eq_true,
    decide_eq_true_eq]

/-! ## Reading over comments -/

theorem finish_eq_of_buffer {left right : State} (buffer : left.buffer = right.buffer)
    (category : left.category = right.category) : left.finish = right.finish := by
  unfold State.finish State.piece?
  rw [buffer, category]

/-- A line of a comment only decides whether the comment goes on. -/
theorem step_of_comment {state : State} {line : Text}
    (hidden : state.inComment = true ∨ opensComment line = true) :
    state.step line = ({ state with inComment := !closesComment line }, none) := by
  unfold State.step
  rw [if_pos (Bool.or_eq_true _ _ ▸ hidden)]
  rfl

/-- Inside a comment the scanner passes over the lines up to the end of the comment. -/
theorem run_inside_comment (state : State) (lines : List Text) :
    ({ state with inComment := true } : State).run lines =
      ({ state with inComment := false } : State).run
        ((lines.dropWhile fun line => !closesComment line).drop 1) := by
  induction lines with
  | nil => exact congrArg Option.toList (finish_eq_of_buffer rfl rfl)
  | cons line rest ih =>
      rw [State.run_cons, step_of_comment (Or.inl rfl)]
      by_cases closes : closesComment line = true
      · simp only [closes, List.dropWhile_cons, Bool.not_true, Bool.false_eq_true, ↓reduceIte,
          List.drop_succ_cons, List.drop_zero, Option.toList_none, List.nil_append]
      · rw [Bool.not_eq_true] at closes
        simp only [closes, List.dropWhile_cons, Bool.not_false, ↓reduceIte, Option.toList_none,
          List.nil_append]
        exact ih

/-- A line outside of comments does not begin one. -/
theorem inComment_step {state : State} {line : Text} (outside : state.inComment = false)
    (visible : opensComment line = false) : (state.step line).1.inComment = false := by
  unfold opensComment at visible
  simp only [State.step, outside, visible, Bool.or_self, Bool.false_eq_true, ↓reduceIte]
  split
  · unfold State.readHeading
    dsimp only
    split <;> (dsimp only; split <;> exact outside)
  · split
    · exact outside
    · split
      · exact outside
      · split
        · exact outside
        · unfold State.readNote
          dsimp only
          split <;> split <;> exact outside

/-- The scanner reads a journal as if the lines of comments were deleted. -/
theorem run_withoutComments (state : State) (lines : List Text)
    (outside : state.inComment = false) : state.run lines = state.run (withoutComments lines) := by
  fun_induction withoutComments lines generalizing state with
  | case1 => rfl
  | case2 line rest opens closes ih =>
      have same : ({ state with inComment := false } : State) = state := by rw [← outside]
      rw [State.run_cons, step_of_comment (Or.inr opens), closes, Bool.not_true, same]
      exact ih state outside
  | case3 line rest opens closes ih =>
      have same : ({ state with inComment := false } : State) = state := by rw [← outside]
      rw [Bool.not_eq_true] at closes
      rw [State.run_cons, step_of_comment (Or.inr opens), closes, Bool.not_false,
        run_inside_comment, same, Option.toList_none, List.nil_append]
      exact ih state outside
  | case4 line rest visible ih =>
      rw [Bool.not_eq_true] at visible
      rw [State.run_cons, State.run_cons, ih _ (inComment_step outside visible)]

/-- No comment begins in a line that is left. -/
theorem visible_of_mem_withoutComments {line : Text} {lines : List Text}
    (member : line ∈ withoutComments lines) : opensComment line = false := by
  fun_induction withoutComments lines with
  | case1 => exact absurd member List.not_mem_nil
  | case2 first rest opens closes ih => exact ih member
  | case3 first rest opens closes ih => exact ih member
  | case4 first rest visible ih =>
      rcases List.mem_cons.mp member with rfl | later
      · exact Bool.eq_false_iff.mpr visible
      · exact ih later

/-! ## Reading a section -/

/-- The pieces that a captured section still gives when `buffer` holds the notes of the group that is
open and `lines` are left. -/
def pending (category : Category) (buffer lines : List Text) : List Piece :=
  ((content? (buffer ++ notes (leadingGroup (noteLines lines)))).toList ++
    (bulletGroups (noteLines lines)).filterMap groupContent?).map fun content =>
      ⟨content, category⟩

/-- A section with a category gives the pieces that are pending when nothing is collected. -/
theorem pieces_of_category {part : Section} {category : Category}
    (named : sectionCategory? part.heading = some category) :
    part.pieces = pending category [] part.lines := by
  simp only [Section.pieces, named, pending, List.filterMap_cons, groupContent?_eq,
    List.nil_append]
  cases content? (notes (leadingGroup (noteLines part.lines))) with
  | none => rfl
  | some content => rfl

theorem pieces_of_no_category {part : Section} (unnamed : sectionCategory? part.heading = none) :
    part.pieces = [] := by
  simp only [Section.pieces, unnamed]

theorem notes_append (first second : List Text) :
    notes (first ++ second) = notes first ++ notes second := by
  simp only [notes, List.map_append, List.filter_append]

/-- With no lines to come the collected notes give the last piece. -/
theorem pending_nil (category : Category) (buffer : List Text) :
    pending category buffer [] =
      ((content? buffer).map fun content => (⟨content, category⟩ : Piece)).toList := by
  simp only [pending, noteLines, leadingGroup, bulletGroups, notes, List.takeWhile_nil,
    List.filter_nil, List.map_nil, List.append_nil, List.filterMap_nil]
  cases content? buffer with
  | none => rfl
  | some content => rfl

/-- A rule ends the section. -/
theorem pending_cons_of_rule {line : Text} (rule : isRule (Text.trim line) = true)
    (category : Category) (buffer rest : List Text) :
    pending category buffer (line :: rest) = pending category buffer [] := by
  simp only [pending, noteLines, List.takeWhile_cons, rule, Bool.not_true, Bool.false_eq_true,
    ↓reduceIte, List.takeWhile_nil]

/-- Blank lines and checklist items are passed over. -/
theorem pending_cons_of_dropped {line : Text} (noRule : isRule (Text.trim line) = false)
    (dropped : Text.trim line = [] ∨ isChecklistItem (Text.trim line) = true)
    (category : Category) (buffer rest : List Text) :
    pending category buffer (line :: rest) = pending category buffer rest := by
  have unkept : (!(Text.trim line).isEmpty && !isChecklistItem (Text.trim line)) = false := by
    rcases dropped with blank | item
    · rw [blank]
      rfl
    · rw [item, Bool.not_true, Bool.and_false]
  have same : noteLines (line :: rest) = noteLines rest := by
    simp only [noteLines, List.takeWhile_cons, noRule, Bool.not_false, ↓reduceIte,
      List.filter_cons, unkept, Bool.false_eq_true]
  unfold pending
  rw [same]

/-- The lines of a section that reach its groups. -/
theorem noteLines_cons_of_kept {line : Text} (noRule : isRule (Text.trim line) = false)
    (filled : Text.trim line ≠ []) (noItem : isChecklistItem (Text.trim line) = false)
    (rest : List Text) : noteLines (line :: rest) = line :: noteLines rest := by
  have kept : (!(Text.trim line).isEmpty && !isChecklistItem (Text.trim line)) = true := by
    rw [noItem, Bool.not_false, Bool.and_true, List.isEmpty_eq_false_iff.mpr filled,
      Bool.not_false]
  simp only [noteLines, List.takeWhile_cons, noRule, Bool.not_false, ↓reduceIte, List.filter_cons,
    kept]

/-- A bullet ends the open group and begins another one. -/
theorem pending_cons_of_bullet {line : Text} (noRule : isRule (Text.trim line) = false)
    (noItem : isChecklistItem (Text.trim line) = false) (bullet : isBullet (Text.trim line) = true)
    (category : Category) (buffer rest : List Text) :
    pending category buffer (line :: rest) =
      pending category buffer [] ++ pending category (notes [line]) rest := by
  have filled : Text.trim line ≠ [] := by
    intro blank
    rw [blank] at bullet
    cases bullet
  have grouped : notes (line :: leadingGroup (noteLines rest)) =
      notes [line] ++ notes (leadingGroup (noteLines rest)) := notes_append [line] _
  rw [pending_nil]
  simp only [pending, noteLines_cons_of_kept noRule filled noItem, leadingGroup, bulletGroups,
    List.takeWhile_cons, bullet, Bool.not_true, Bool.false_eq_true, ↓reduceIte,
    List.filterMap_cons, groupContent?_eq]
  rw [show notes [] = [] from rfl, List.append_nil]
  change _ = _ ++ List.map _ ((content? (notes [line] ++ notes (leadingGroup _))).toList ++ _)
  rw [← grouped]
  unfold leadingGroup
  cases content? buffer <;> cases content? (notes (line :: _)) <;> rfl

/-- Another line continues the open group. -/
theorem pending_cons_of_continuation {line : Text} (noRule : isRule (Text.trim line) = false)
    (filled : Text.trim line ≠ []) (noItem : isChecklistItem (Text.trim line) = false)
    (noBullet : isBullet (Text.trim line) = false) (category : Category)
    (buffer rest : List Text) :
    pending category buffer (line :: rest) = pending category (buffer ++ notes [line]) rest := by
  have leading : leadingGroup (line :: noteLines rest) =
      [line] ++ leadingGroup (noteLines rest) := by
    simp only [leadingGroup, List.takeWhile_cons, noBullet, Bool.not_false, ↓reduceIte,
      List.singleton_append]
  have groups : bulletGroups (line :: noteLines rest) = bulletGroups (noteLines rest) := by
    simp only [bulletGroups, noBullet, Bool.false_eq_true, ↓reduceIte]
  unfold pending
  rw [noteLines_cons_of_kept noRule filled noItem, leading, groups, notes_append,
    List.append_assoc]

/-! ## Reading line by line -/

theorem notes_singleton (line : Text) :
    notes [line] = if (withoutBullet (Text.trim line)).isEmpty then []
      else [withoutBullet (Text.trim line)] := by
  unfold notes
  rw [List.map_cons, List.map_nil, note_eq]
  cases withoutBullet (Text.trim line) <;> rfl

/-- A bullet ends the open piece, and the next one begins with its note. -/
theorem readNote_of_bullet {state : State} {line : Text}
    (bullet : isBullet (Text.trim line) = true) :
    state.readNote (Text.trim line) = ({ state with buffer := notes [line] }, state.piece?) := by
  obtain ⟨category, buffer, inComment, capturing⟩ := state
  rw [notes_singleton]
  unfold State.readNote
  cases buffer with
  | nil =>
      simp only [bullet, List.isEmpty_nil, Bool.not_true, Bool.and_false, Bool.false_eq_true,
        ↓reduceIte, List.nil_append]
      split <;> rfl
  | cons first others =>
      simp only [bullet, List.isEmpty_cons, Bool.not_false, Bool.and_true, ↓reduceIte,
        State.cleared, List.nil_append]
      split <;> rfl

/-- A line without a bullet adds its note to the open piece. -/
theorem readNote_of_continuation {state : State} {line : Text}
    (noBullet : isBullet (Text.trim line) = false) :
    state.readNote (Text.trim line) =
      ({ state with buffer := state.buffer ++ notes [line] }, none) := by
  rw [notes_singleton]
  unfold State.readNote
  simp only [noBullet, Bool.false_and, Bool.false_eq_true, ↓reduceIte]
  split
  · rw [List.append_nil]
  · rfl

/-- A scanner outside of comments that holds no notes unless it captures. -/
structure State.Settled (state : State) : Prop where
  outside : state.inComment = false
  empty : state.capturing = false → state.buffer = []

theorem settled_start : State.start.Settled := ⟨rfl, fun _ => rfl⟩

/-- The pieces that a scanner still gives when these lines are left of the section. -/
def State.remaining (state : State) (lines : List Text) : List Piece :=
  if state.capturing then pending state.category state.buffer lines else []

/-- At the end of the lines the end of the journal ends the last piece. -/
theorem remaining_nil {state : State} (settled : state.Settled) :
    state.remaining [] = state.finish.toList := by
  unfold State.remaining State.finish State.piece?
  cases capturing : state.capturing with
  | true => exact pending_nil _ _
  | false =>
      rw [settled.empty capturing]
      rfl

/-- A line that is neither a rule nor a checklist item goes to the groups of its section. -/
theorem readNote_in_section {state : State} {line : Text} (settled : state.Settled)
    (capturing : state.capturing = true) (noRule : isRule (Text.trim line) = false)
    (noItem : isChecklistItem (Text.trim line) = false) (rest : List Text) :
    (state.readNote (Text.trim line)).1.Settled ∧
      (state.readNote (Text.trim line)).2.toList ++
          (state.readNote (Text.trim line)).1.remaining rest =
        state.remaining (line :: rest) := by
  have captures : state.capturing = false → False :=
    fun skipping => Bool.false_ne_true (skipping.symm.trans capturing)
  cases bullet : isBullet (Text.trim line) with
  | true =>
      rw [readNote_of_bullet bullet]
      refine ⟨⟨settled.outside, fun skipping => (captures skipping).elim⟩, ?_⟩
      simp only [State.remaining, capturing, ↓reduceIte,
        pending_cons_of_bullet noRule noItem bullet, pending_nil, State.piece?]
  | false =>
      rw [readNote_of_continuation bullet]
      refine ⟨⟨settled.outside, fun skipping => (captures skipping).elim⟩, ?_⟩
      simp only [State.remaining, capturing, ↓reduceIte, Option.toList_none, List.nil_append]
      by_cases blank : Text.trim line = []
      · have noNotes : notes [line] = [] := by
          rw [notes_singleton, blank]
          rfl
        rw [pending_cons_of_dropped noRule (Or.inl blank), noNotes, List.append_nil]
      · rw [pending_cons_of_continuation noRule blank noItem bullet]

/-- A line that is no heading ends the first of the pieces that the section still gives, or none. -/
theorem step_in_section {state : State} {line : Text} (settled : state.Settled)
    (visible : opensComment line = false) (noHeading : isHeading (Text.trim line) = false)
    (rest : List Text) :
    (state.step line).1.Settled ∧
      (state.step line).2.toList ++ (state.step line).1.remaining rest =
        state.remaining (line :: rest) := by
  unfold opensComment at visible
  have unfolded : state.step line =
      if !state.capturing then (state, none)
      else if isRule (Text.trim line) then
        ({ state.cleared with capturing := false }, state.piece?)
      else if isChecklistItem (Text.trim line) then (state, none)
      else state.readNote (Text.trim line) := by
    simp only [State.step, settled.outside, visible, noHeading, Bool.or_self, Bool.false_eq_true,
      ↓reduceIte]
  rw [unfolded]
  cases capturing : state.capturing with
  | false =>
      refine ⟨settled, ?_⟩
      simp only [State.remaining, capturing, Bool.not_false, Bool.false_eq_true, ↓reduceIte,
        Option.toList_none, List.nil_append]
  | true =>
      rw [Bool.not_true, if_neg Bool.false_ne_true]
      cases rule : isRule (Text.trim line) with
      | true =>
          refine ⟨⟨settled.outside, fun _ => rfl⟩, ?_⟩
          simp only [State.remaining, capturing, ↓reduceIte, pending_cons_of_rule rule,
            pending_nil, State.cleared, Bool.false_eq_true, List.append_nil, State.piece?]
      | false =>
          rw [if_neg Bool.false_ne_true]
          cases item : isChecklistItem (Text.trim line) with
          | true =>
              refine ⟨settled, ?_⟩
              simp only [State.remaining, capturing, ↓reduceIte, Option.toList_none,
                List.nil_append, pending_cons_of_dropped rule (Or.inr item)]
          | false =>
              rw [if_neg Bool.false_ne_true]
              exact readNote_in_section settled capturing rule item rest

/-- A scanner that skips holds no notes, so every heading ends what the end of the journal would
end. -/
theorem readHeading_of_settled {state : State} (settled : state.Settled) (heading : Text) :
    state.readHeading heading =
      (⟨(sectionCategory? heading).getD state.category, [], false,
        (sectionCategory? heading).isSome⟩, state.finish) := by
  obtain ⟨category, buffer, inComment, capturing⟩ := state
  obtain ⟨outside, empty⟩ := settled
  simp only at outside empty
  rw [outside]
  unfold State.readHeading
  cases capturing with
  | true => cases sectionCategory? heading <;> rfl
  | false =>
      rw [empty rfl]
      cases sectionCategory? heading <;> rfl

/-- A heading ends the section before it and opens its own. -/
theorem step_at_heading {state : State} {line : Text} (settled : state.Settled)
    (visible : opensComment line = false) (heading : isHeading (Text.trim line) = true)
    (lines : List Text) :
    (state.step line).1.Settled ∧
      (state.step line).2.toList ++ (state.step line).1.remaining lines =
        state.remaining [] ++ Section.pieces ⟨Text.trim line, lines⟩ := by
  unfold opensComment at visible
  have unfolded : state.step line = state.readHeading (Text.trim line) := by
    simp only [State.step, settled.outside, visible, heading, Bool.or_self, Bool.false_eq_true,
      ↓reduceIte]
  rw [unfolded, readHeading_of_settled settled, remaining_nil settled]
  cases named : sectionCategory? (Text.trim line) with
  | some category =>
      rw [pieces_of_category named]
      exact ⟨⟨rfl, fun skipping => (Bool.false_ne_true skipping.symm).elim⟩, rfl⟩
  | none =>
      rw [pieces_of_no_category named]
      exact ⟨⟨rfl, fun _ => rfl⟩, rfl⟩

/-- The lines up to the next heading. -/
def untilHeading (lines : List Text) : List Text :=
  lines.takeWhile fun line => !isHeading (Text.trim line)

/-- A settled scanner gives on lines without comments the rest of the section that it reads, and then
the sections that follow. -/
theorem run_of_visible {state : State} {lines : List Text} (settled : state.Settled)
    (visible : ∀ line ∈ lines, opensComment line = false) :
    state.run lines =
      state.remaining (untilHeading lines) ++ (sections lines).flatMap Section.pieces := by
  induction lines generalizing state with
  | nil =>
      rw [State.run_nil, untilHeading, List.takeWhile_nil, remaining_nil settled, sections,
        List.flatMap_nil, List.append_nil]
  | cons line rest ih =>
      have visibleLine := visible line List.mem_cons_self
      have visibleRest : ∀ line ∈ rest, opensComment line = false :=
        fun line member => visible line (List.mem_cons_of_mem _ member)
      rw [State.run_cons]
      cases heading : isHeading (Text.trim line) with
      | true =>
          obtain ⟨settledNext, split⟩ :=
            step_at_heading settled visibleLine heading (untilHeading rest)
          rw [ih settledNext visibleRest, ← List.append_assoc, split, List.append_assoc]
          simp only [untilHeading, sections, List.takeWhile_cons, heading, Bool.not_true,
            Bool.false_eq_true, ↓reduceIte, List.flatMap_cons]
      | false =>
          obtain ⟨settledNext, split⟩ :=
            step_in_section settled visibleLine heading (untilHeading rest)
          rw [ih settledNext visibleRest, ← List.append_assoc, split]
          simp only [untilHeading, sections, List.takeWhile_cons, heading, Bool.not_false,
            Bool.false_eq_true, ↓reduceIte]

/-- The scanner gives the pieces of the outline. -/
theorem pieces_eq_outline (body : Text) : pieces body = outline body := by
  unfold pieces outline
  rw [run_withoutComments _ _ settled_start.outside,
    run_of_visible settled_start fun _ member => visible_of_mem_withoutComments member]
  rfl

/-- **Reading in passes.** Whatever the taxonomy and the date, the thoughts of a journal have the
contents and the categories of its outline, in order. -/
theorem atomize_eq_outline (taxonomy : Taxonomy) (date body : Text) :
    (taxonomy.atomize date body).map (fun thought => (thought.content, thought.category)) =
      (outline body).map fun piece => (piece.content, piece.category) := by
  rw [← pieces_eq_outline, Taxonomy.atomize, List.map_map]
  rfl

end ThoughtJournal.Scan
