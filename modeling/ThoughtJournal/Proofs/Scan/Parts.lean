import ThoughtJournal.Proofs.Scan.Outline
import ThoughtJournal.Proofs.Text.Lines

/-! # Reading a journal in parts

The lines of a journal can be read in two parts, the second one from the state in which the first
leaves the scanner (`Scan.run_append`). What a part leaves behind is the open piece, the category and
whether a section is captured. A heading ends the open piece like the end of a journal does, and it
sets everything else anew. So a journal that is continued after a line feed with a second one that
begins with a heading gives the thoughts of the first followed by those of the second
(`Scan.atomize_append`), provided that the first does not end inside of a comment.
-/

namespace ThoughtJournal.Scan

/-- The state after some lines. -/
def State.after (state : State) (lines : List Text) : State :=
  lines.foldl (fun state line => (state.step line).1) state

/-- The pieces that some lines end. -/
def State.ended (state : State) : List Text → List Piece
  | [] => []
  | line :: rest => (state.step line).2.toList ++ (state.step line).1.ended rest

theorem after_cons (state : State) (line : Text) (rest : List Text) :
    state.after (line :: rest) = (state.step line).1.after rest := rfl

theorem ended_cons (state : State) (line : Text) (rest : List Text) :
    state.ended (line :: rest) = (state.step line).2.toList ++ (state.step line).1.ended rest := rfl

/-- What every line keeps, all of them keep. -/
theorem after_induction {motive : State → Prop} {lines : List Text}
    (step : ∀ state, ∀ line ∈ lines, motive state → motive (state.step line).1) {state : State}
    (start : motive state) : motive (state.after lines) := by
  induction lines generalizing state with
  | nil => exact start
  | cons line rest ih =>
      exact ih (fun state other member => step state other (List.mem_cons_of_mem _ member))
        (step state line List.mem_cons_self start)

/-- The second part is read from where the first one leads. -/
theorem run_append (state : State) (first second : List Text) :
    state.run (first ++ second) = state.ended first ++ (state.after first).run second := by
  induction first generalizing state with
  | nil => rfl
  | cons line rest ih =>
      rw [List.cons_append, State.run_cons, ih, ended_cons, after_cons, List.append_assoc]

/-- The end of a journal ends the piece that is open after its lines. -/
theorem run_eq_ended_append (state : State) (lines : List Text) :
    state.run lines = state.ended lines ++ (state.after lines).finish.toList := by
  rw [← State.run_nil, ← run_append, List.append_nil]

/-! ## The line feed between two journals -/

/-- A carriage return at the end makes no difference to the beginning of a comment. -/
theorem opensComment_withoutReturn (line : Text) :
    opensComment (Text.withoutReturn line) = opensComment line :=
  Text.occursIn_withoutReturn (by decide) (by decide) line

theorem closesComment_withoutReturn (line : Text) :
    closesComment (Text.withoutReturn line) = closesComment line :=
  Text.occursIn_withoutReturn (by decide) (by decide) line

/-- A carriage return at the end of a line makes no difference. -/
theorem step_withoutReturn (state : State) (line : Text) :
    state.step (Text.withoutReturn line) = state.step line := by
  have opens := opensComment_withoutReturn line
  have closes := closesComment_withoutReturn line
  unfold opensComment at opens
  unfold closesComment at closes
  unfold State.step
  rw [Text.trim_withoutReturn, opens, closes]

/-- An empty line makes no difference, inside of comments and outside. -/
theorem step_nil (state : State) : state.step [] = (state, none) := by
  obtain ⟨category, buffer, inComment, capturing⟩ := state
  cases inComment <;> cases capturing <;> rfl

/-- A line feed at the end of a journal makes no difference. -/
theorem after_ended_line_feed (state : State) (body : Text) :
    state.after (Text.lines (body ++ ['\n'])) = state.after (Text.lines body) ∧
      state.ended (Text.lines (body ++ ['\n'])) = state.ended (Text.lines body) := by
  induction body using Text.line_induction generalizing state with
  | last line free =>
      rw [Text.lines_of_line_feed free, Text.lines_of_free free, Text.lines_nil, after_cons,
        ended_cons, step_withoutReturn]
      by_cases empty : line = []
      · rw [if_pos empty, empty, step_nil]
        exact ⟨rfl, rfl⟩
      · rw [if_neg empty]
        exact ⟨rfl, rfl⟩
  | more line rest free ih =>
      obtain ⟨after, ended⟩ := ih (state.step line).1
      rw [List.append_assoc, List.cons_append, Text.lines_of_line_feed free,
        Text.lines_of_line_feed free, after_cons, after_cons, ended_cons, ended_cons,
        step_withoutReturn, after, ended]
      exact ⟨rfl, rfl⟩

/-! ## Headings -/

/-- A scanner that skips holds no notes, also inside of comments. -/
theorem empty_step {state : State} (empty : state.capturing = false → state.buffer = [])
    (line : Text) :
    (state.step line).1.capturing = false → (state.step line).1.buffer = [] := by
  by_cases hidden : state.inComment = true ∨ opensComment line = true
  · rw [step_of_comment hidden]
    exact empty
  · obtain ⟨outside, visible⟩ := not_or.mp hidden
    have settled : state.Settled := ⟨Bool.eq_false_iff.mpr outside, empty⟩
    have shown : opensComment line = false := Bool.eq_false_iff.mpr visible
    cases heading : isHeading (Text.trim line) with
    | true => exact (step_at_heading settled shown heading []).1.empty
    | false => exact (step_in_section settled shown heading []).1.empty

/-- Whatever lines are read, no notes are held outside of captured sections. -/
theorem empty_after {state : State} (empty : state.capturing = false → state.buffer = [])
    (lines : List Text) :
    (state.after lines).capturing = false → (state.after lines).buffer = [] :=
  after_induction (motive := fun state => state.capturing = false → state.buffer = [])
    (fun _ line _ empty => empty_step empty line) empty

/-- After lines that do not end inside of a comment the scanner is settled. -/
theorem settled_after {lines : List Text} (closed : (State.start.after lines).inComment = false) :
    (State.start.after lines).Settled :=
  ⟨closed, empty_after (fun _ => rfl) lines⟩

/-- Lines that begin with a heading are read alike from every settled state, which ends its open
piece first. -/
theorem run_at_heading {state : State} {line : Text} (settled : state.Settled)
    (heading : isHeading (Text.trim line) = true) (visible : opensComment line = false)
    (rest : List Text) :
    state.run (line :: rest) = state.finish.toList ++ State.start.run (line :: rest) := by
  have kept : withoutComments (line :: rest) = line :: withoutComments rest := by
    rw [withoutComments, visible]
    rfl
  have parts : ∀ {other : State}, other.Settled → other.run (line :: rest) =
      other.finish.toList ++ (sections (line :: withoutComments rest)).flatMap Section.pieces := by
    intro other otherSettled
    have cut : untilHeading (line :: withoutComments rest) = [] := by
      simp only [untilHeading, List.takeWhile_cons, heading, Bool.not_true, Bool.false_eq_true,
        ↓reduceIte]
    rw [run_withoutComments _ _ otherSettled.outside, ← kept,
      run_of_visible otherSettled fun _ member => visible_of_mem_withoutComments member, kept, cut,
      remaining_nil otherSettled]
  rw [parts settled, parts settled_start]
  rfl

/-- **Sections are independent.** Whatever the taxonomy and the date, the thoughts of a journal
followed by a line feed and a second journal are the thoughts of the one followed by those of the
other, if the first does not end inside of a comment and the second begins with a heading. -/
theorem atomize_append (taxonomy : Taxonomy) (date : Text) {first second heading : Text}
    (closed : (State.start.after (Text.lines first)).inComment = false)
    (leading : (Text.lines second).head? = some heading)
    (headed : isHeading (Text.trim heading) = true) (visible : opensComment heading = false) :
    taxonomy.atomize date (first ++ '\n' :: second) =
      taxonomy.atomize date first ++ taxonomy.atomize date second := by
  obtain ⟨after, ended⟩ := after_ended_line_feed State.start first
  obtain ⟨rest, lines⟩ := List.head?_eq_some_iff.mp leading
  have whole : pieces (first ++ '\n' :: second) = pieces first ++ pieces second := by
    unfold pieces
    rw [Text.lines_append_line_feed, run_append, after, ended, lines,
      run_at_heading (settled_after closed) headed visible, ← List.append_assoc,
      ← run_eq_ended_append]
  unfold Taxonomy.atomize
  rw [whole, List.map_append]

/-- A journal with a comment that ends in the middle of a thought and a carriage return, and one that
begins with a section that is not captured. -/
theorem atomize_append_at_open_thought :
    let first := "## Project\n<!--\n-->\n- a\nb\r".toList
    let second := "## Tasks\n- c\n## Area\n- d".toList
    let taxonomy : Taxonomy := ⟨Dictionary.empty⟩
    (State.start.after (Text.lines first)).inComment = false ∧
      (taxonomy.atomize ['1'] (first ++ '\n' :: second)).map (fun thought =>
        (thought.content, thought.category)) = [("a\nb".toList, .project), (['d'], .area)] ∧
      taxonomy.atomize ['1'] (first ++ '\n' :: second) =
        taxonomy.atomize ['1'] first ++ taxonomy.atomize ['1'] second := by
  intro first second taxonomy
  have heading : (Text.lines second).head? = some "## Tasks".toList := by decide +kernel
  refine ⟨by decide +kernel, by decide +kernel, ?_⟩
  exact atomize_append taxonomy ['1'] (by decide +kernel) heading (by decide +kernel)
    (by decide +kernel)

end ThoughtJournal.Scan
