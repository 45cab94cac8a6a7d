import ThoughtJournal.Proofs.Scan.Parts

/-! # Checklist items and the lines after them

A checklist item is passed over as a line of its own, so deleting it changes nothing. A line that
goes on with the item is a line like any other one without a bullet: it continues the thought that is
collected before the item. So an item can be deleted together with such lines without a change only if
they come to nothing (`Scan.atomize_without_item_iff`): where no section is captured, or if they are a
single star that nothing stands with.

The reason is that every note ends with a visible character. A content of at least two notes has the
line feed between them and the second note as it is, so no note can be left out of it without a change
(`Scan.content?_insert_iff`).
-/

namespace ThoughtJournal.Scan

/-! ## Contents -/

theorem endsVisibly_withoutDashSpace {text : Text} (visible : text.EndsVisibly) :
    (withoutDashSpace text).EndsVisibly := by
  unfold withoutDashSpace
  split
  · rename_i rest
    refine visible.of_suffix ⟨['-', ' '], rfl⟩ fun empty => ?_
    obtain ⟨others, c, split, unblank⟩ := visible
    rw [empty] at split
    have last := congrArg List.getLast? split
    rw [List.getLast?_concat] at last
    cases last
    cases unblank
  · exact visible

/-- Joined notes end visibly if each of them does. -/
theorem endsVisibly_join {notes : List Text} (visible : ∀ note ∈ notes, note.EndsVisibly)
    (filled : notes ≠ []) : (Text.join ['\n'] notes).EndsVisibly := by
  induction notes with
  | nil => exact absurd rfl filled
  | cons note rest ih =>
      by_cases last : rest = []
      · subst last
        exact visible note List.mem_cons_self
      · have others := ih (fun other member => visible other (List.mem_cons_of_mem _ member)) last
        rw [Text.join_cons last, List.append_cons]
        exact others.append _

/-- Joining adds one line feed between two notes. -/
theorem length_join (notes : List Text) :
    (Text.join ['\n'] notes).length = notes.flatten.length + (notes.length - 1) := by
  induction notes with
  | nil => rfl
  | cons note rest ih =>
      cases rest with
      | nil => rw [Text.join_singleton, List.flatten_singleton, List.length_singleton]; rfl
      | cons next others =>
          rw [Text.join_cons (List.cons_ne_nil next others), List.length_append, List.length_cons,
            ih]
          simp only [List.flatten_cons, List.length_append, List.length_cons]
          omega

/-- More notes are longer. -/
theorem length_join_lt {first between second : List Text} (filled : first ++ second ≠ [])
    (more : between ≠ []) :
    (Text.join ['\n'] (first ++ second)).length <
      (Text.join ['\n'] (first ++ (between ++ second))).length := by
  have counted := List.length_pos_iff.mpr filled
  have added := List.length_pos_iff.mpr more
  rw [length_join, length_join]
  simp only [List.flatten_append, List.length_append] at counted ⊢
  omega

/-- What is left of the first note of a content. -/
def leadingNote (note : Text) : Text := Text.trimStart (withoutDashSpace (Text.trimStart note))

/-- Only the first line of a text can lose a dash and a space. -/
theorem withoutDashSpace_append {text : Text} (filled : text ≠ []) (after : Text) :
    withoutDashSpace (text ++ '\n' :: after) = withoutDashSpace text ++ '\n' :: after := by
  match text with
  | [] => exact absurd rfl filled
  | [c] =>
      unfold withoutDashSpace
      split
      · rename_i split
        cases split
      · split
        · rename_i split
          cases split
        · rfl
  | first :: second :: rest =>
      unfold withoutDashSpace
      split
      · rename_i split
        cases split
        rfl
      · rename_i other
        split
        · rename_i same
          cases same
          exact absurd rfl (other _)
        · rfl

/-- The content of several notes. -/
theorem content?_cons_of_more {note : Text} {rest : List Text}
    (visible : ∀ other ∈ note :: rest, other.EndsVisibly) (more : rest ≠ []) :
    content? (note :: rest) = some (leadingNote note ++ '\n' :: Text.join ['\n'] rest) := by
  have first := visible note List.mem_cons_self
  have others := endsVisibly_join (fun other member => visible other (List.mem_cons_of_mem _ member))
    more
  have later : Text.EndsVisibly ('\n' :: Text.join ['\n'] rest) := others.append ['\n']
  have joined : Text.trim (Text.join ['\n'] (note :: rest)) =
      Text.trimStart note ++ '\n' :: Text.join ['\n'] rest := by
    rw [Text.join_cons more, Text.trim_append_of_endsVisibly first later]
  have stripped : Text.trim (withoutDashSpace (Text.trimStart note ++
      '\n' :: Text.join ['\n'] rest)) = leadingNote note ++ '\n' :: Text.join ['\n'] rest := by
    rw [withoutDashSpace_append first.trimStart.ne_nil]
    exact Text.trim_append_of_endsVisibly (endsVisibly_withoutDashSpace first.trimStart) later
  have unlike : ∀ (text : Text) (c : Char), c ≠ '\n' →
      text ++ '\n' :: Text.join ['\n'] rest ≠ [c] := by
    intro text c different same
    have feeds : '\n' ∈ [c] := same ▸ List.mem_append_right text List.mem_cons_self
    exact different (List.mem_singleton.mp feeds).symm
  have filled : leadingNote note ++ '\n' :: Text.join ['\n'] rest ≠ [] :=
    List.append_ne_nil_of_right_ne_nil _ (List.cons_ne_nil _ _)
  unfold content?
  simp only [joined, unlike _ '-' (by decide), stripped, unlike _ '*' (by decide), ↓reduceIte,
    decide_false, Bool.or_false, List.isEmpty_eq_false_iff.mpr filled, Bool.false_eq_true]

/-- The content of a single note. -/
theorem content?_singleton {note : Text} (visible : note.EndsVisibly) :
    content? [note] =
      if Text.trimStart note = ['-'] ∨ leadingNote note = ['*'] then none
      else some (leadingNote note) := by
  have joined : Text.trim (Text.join ['\n'] [note]) = Text.trimStart note :=
    Text.trim_of_endsVisibly visible
  have shown : (withoutDashSpace (Text.trimStart note)).EndsVisibly :=
    endsVisibly_withoutDashSpace visible.trimStart
  have stripped : Text.trim (withoutDashSpace (Text.trimStart note)) = leadingNote note :=
    Text.trim_of_endsVisibly shown
  have filled : (leadingNote note).isEmpty = false :=
    List.isEmpty_eq_false_iff.mpr shown.trimStart.ne_nil
  unfold content?
  simp only [joined, stripped]
  by_cases dash : Text.trimStart note = ['-']
  · rw [if_pos dash, if_pos (Or.inl dash)]
    rfl
  · rw [if_neg dash, filled, Bool.false_or]
    simp only [dash, false_or, decide_eq_true_eq]

/-- Nothing can be left out after a first note without a change. -/
theorem content?_ne_of_between {note : Text} {first between second : List Text}
    (visible : ∀ other ∈ note :: (first ++ (between ++ second)), other.EndsVisibly)
    (more : between ≠ []) :
    content? (note :: (first ++ (between ++ second))) ≠ content? (note :: (first ++ second)) := by
  have longer : first ++ (between ++ second) ≠ [] := fun empty =>
    more (List.append_eq_nil_iff.mp (List.append_eq_nil_iff.mp empty).2).1
  intro same
  rw [content?_cons_of_more visible longer] at same
  by_cases alone : first ++ second = []
  · rw [alone] at same
    rw [content?_singleton (visible note List.mem_cons_self)] at same
    split at same
    · cases same
    · have lengths := congrArg List.length (Option.some.inj same)
      rw [List.length_append, List.length_cons] at lengths
      omega
  · have fewer : ∀ other ∈ note :: (first ++ second), other.EndsVisibly := by
      intro other member
      refine visible other ?_
      simp only [List.mem_cons, List.mem_append] at member ⊢
      rcases member with here | before | after
      · exact Or.inl here
      · exact Or.inr (Or.inl before)
      · exact Or.inr (Or.inr (Or.inr after))
    rw [content?_cons_of_more fewer alone] at same
    have joins := (List.cons.inj (List.append_cancel_left (Option.some.inj same))).2
    have shorter := length_join_lt alone more
    rw [joins] at shorter
    exact Nat.lt_irrefl _ shorter

/-- The notes of lines without a bullet: they begin and end visibly, and not with a dash. -/
structure Plain (note : Text) : Prop where
  ends : note.EndsVisibly
  begins : Text.trimStart note = note
  undashed : isBullet note = false

theorem withoutDashSpace_of_undashed {text : Text} (undashed : isBullet text = false) :
    withoutDashSpace text = text := by
  unfold withoutDashSpace
  split
  · cases undashed
  · rfl

/-- Nothing is taken from the note of a line without a bullet. -/
theorem Plain.leadingNote_eq {note : Text} (plain : Plain note) : leadingNote note = note := by
  unfold leadingNote
  rw [plain.begins, withoutDashSpace_of_undashed plain.undashed, plain.begins]

/-- Plain notes are joined as they are. -/
theorem content?_of_plain {notes : List Text} (plain : ∀ note ∈ notes, Plain note)
    (filled : notes ≠ []) :
    content? notes = if notes = [['*']] then none else some (Text.join ['\n'] notes) := by
  match notes with
  | [] => exact absurd rfl filled
  | [note] =>
      have first := plain note List.mem_cons_self
      have undashed : note ≠ ['-'] := fun dash => by
        have bullet := first.undashed
        rw [dash] at bullet
        cases bullet
      rw [content?_singleton first.ends, first.leadingNote_eq, first.begins, Text.join_singleton]
      simp only [undashed, false_or, List.cons.injEq, and_true]
  | note :: next :: others =>
      have first := plain note List.mem_cons_self
      have several : note :: next :: others ≠ [['*']] := fun same => by cases same
      rw [content?_cons_of_more (fun other member => (plain other member).ends)
        (List.cons_ne_nil next others), first.leadingNote_eq, if_neg several,
        Text.join_cons (List.cons_ne_nil next others)]

/-- **Notes in the middle of a group.** Plain notes can be left out without a change only if they are
a single star that nothing stands with. -/
theorem content?_insert_iff {buffer between after : List Text}
    (visible : ∀ note ∈ buffer, note.EndsVisibly) (plain : ∀ note ∈ between ++ after, Plain note) :
    content? (buffer ++ (between ++ after)) = content? (buffer ++ after) ↔
      between = [] ∨ (buffer = [] ∧ between = [['*']] ∧ after = []) := by
  by_cases none : between = []
  · subst none
    exact ⟨fun _ => Or.inl rfl, fun _ => rfl⟩
  simp only [none, false_or]
  cases buffer with
  | cons note first =>
      have all : ∀ other ∈ note :: (first ++ (between ++ after)), other.EndsVisibly := by
        intro other member
        rw [← List.cons_append, List.mem_append] at member
        rcases member with before | later
        · exact visible other before
        · exact (plain other later).ends
      refine ⟨fun same => absurd same (content?_ne_of_between all none), fun star => ?_⟩
      cases star.1
  | nil =>
      simp only [List.nil_append, true_and]
      have filled : between ++ after ≠ [] := List.append_ne_nil_of_left_ne_nil none after
      rw [content?_of_plain plain filled]
      cases after with
      | nil =>
          rw [List.append_nil, content?_nil]
          by_cases star : between = [['*']]
          · simp only [star, ↓reduceIte, and_self]
          · simp only [star, ↓reduceIte, reduceCtorEq, false_and]
      | cons next others =>
          have rest : ∀ note ∈ next :: others, Plain note := fun note member =>
            plain note (List.mem_append_right between member)
          have longer : (Text.join ['\n'] (next :: others)).length <
              (Text.join ['\n'] (between ++ next :: others)).length := by
            have filledRest : [] ++ next :: others ≠ [] := List.cons_ne_nil next others
            exact length_join_lt filledRest none
          have several : between ++ next :: others ≠ [['*']] := by
            intro same
            have lengths := congrArg List.length same
            have counted := List.length_pos_iff.mpr none
            rw [List.length_append, List.length_cons, List.length_singleton] at lengths
            omega
          rw [if_neg several, content?_of_plain rest (List.cons_ne_nil next others)]
          refine ⟨fun same => ?_, fun star => ?_⟩
          · split at same
            · cases same
            · rw [Option.some.inj same] at longer
              exact absurd longer (Nat.lt_irrefl _)
          · cases star.2

/-! ## Notes -/

theorem withoutBullet_suffix (trimmed : Text) : withoutBullet trimmed <:+ trimmed := by
  unfold withoutBullet
  split
  · exact ⟨['-', ' '], rfl⟩
  · exact ⟨['-'], rfl⟩
  · exact List.suffix_refl trimmed

/-- Every note ends visibly. -/
theorem endsVisibly_of_mem_notes {note : Text} {group : List Text} (member : note ∈ notes group) :
    note.EndsVisibly := by
  obtain ⟨mapped, filled⟩ := List.mem_filter.mp member
  obtain ⟨line, _, rfl⟩ := List.mem_map.mp mapped
  have kept : Scan.note line ≠ [] := of_decide_eq_true filled
  rw [note_eq] at kept ⊢
  have suffix := withoutBullet_suffix (Text.trim line)
  have shown : Text.trim line ≠ [] := fun blank =>
    kept (List.suffix_nil.mp (blank ▸ suffix))
  exact (Text.endsVisibly_trim shown).of_suffix suffix kept

/-- Lines that are neither blank nor bullets are the notes of a group as they are. -/
theorem notes_of_unbulleted {group : List Text}
    (plain : ∀ line ∈ group, Text.trim line ≠ [] ∧ isBullet (Text.trim line) = false) :
    notes group = group.map Text.trim := by
  have same : group.map note = group.map Text.trim := by
    refine List.map_congr_left fun line member => ?_
    have undashed := (plain line member).2
    rw [note_eq]
    unfold withoutBullet
    split
    · rename_i split
      rw [split] at undashed
      cases undashed
    · rename_i split
      rw [split] at undashed
      cases undashed
    · rfl
  unfold notes
  rw [same, List.filter_eq_self]
  intro note member
  obtain ⟨line, origin, rfl⟩ := List.mem_map.mp member
  exact decide_eq_true (plain line origin).1

/-- A line without a bullet that is not blank gives a note from which nothing is taken. -/
theorem plain_trim {line : Text} (filled : Text.trim line ≠ [])
    (undashed : isBullet (Text.trim line) = false) : Plain (Text.trim line) :=
  ⟨Text.endsVisibly_trim filled, Text.trimStart_trim line, undashed⟩

theorem trim_ne_nil_of_mem_noteLines {line : Text} {lines : List Text}
    (member : line ∈ noteLines lines) : Text.trim line ≠ [] := by
  have kept := (List.mem_filter.mp member).2
  rw [Bool.and_eq_true, Bool.not_eq_true', List.isEmpty_eq_false_iff] at kept
  exact kept.1

theorem of_mem_leadingGroup {line : Text} {lines : List Text}
    (member : line ∈ leadingGroup lines) :
    line ∈ lines ∧ isBullet (Text.trim line) = false := by
  have undashed := List.mem_takeWhile_imp member
  rw [Bool.not_eq_true'] at undashed
  exact ⟨(List.takeWhile_prefix _).mem member, undashed⟩

/-- The lines that come before the first bullet of a section. -/
theorem unbulleted_of_mem_leadingGroup {line : Text} {lines : List Text}
    (member : line ∈ leadingGroup (noteLines lines)) :
    Text.trim line ≠ [] ∧ isBullet (Text.trim line) = false := by
  obtain ⟨kept, undashed⟩ := of_mem_leadingGroup member
  exact ⟨trim_ne_nil_of_mem_noteLines kept, undashed⟩

/-! ## The lines of an item -/

/-- A line that goes on with the item before it: not blank, not a heading, and without a dash. -/
def continuesItem (line : Text) : Bool :=
  !(Text.trim line).isEmpty && !isBullet (Text.trim line) && !isHeading (Text.trim line)

/-- What it takes for a line to go on with the item before it. -/
theorem continuesItem_iff {line : Text} : continuesItem line = true ↔
    Text.trim line ≠ [] ∧ isBullet (Text.trim line) = false ∧
      isHeading (Text.trim line) = false := by
  unfold continuesItem
  rw [Bool.and_eq_true, Bool.and_eq_true, Bool.not_eq_true', Bool.not_eq_true', Bool.not_eq_true',
    List.isEmpty_eq_false_iff, and_assoc]

/-- What begins with a part that begins with a dash is a bullet. -/
theorem isBullet_of_isPrefixOf {lead trimmed : Text}
    (starts : lead.isPrefixOf trimmed = true) (dashed : isBullet lead = true) :
    isBullet trimmed = true :=
  List.isPrefixOf_iff_prefix.mpr
    ((List.isPrefixOf_iff_prefix.mp dashed).trans (List.isPrefixOf_iff_prefix.mp starts))

theorem isBullet_of_isRule {trimmed : Text} (rule : isRule trimmed = true) :
    isBullet trimmed = true := isBullet_of_isPrefixOf rule rfl

theorem isBullet_of_isChecklistItem {trimmed : Text} (item : isChecklistItem trimmed = true) :
    isBullet trimmed = true := by
  rcases Bool.or_eq_true_iff.mp item with unchecked | checked
  · exact isBullet_of_isPrefixOf unchecked rfl
  · exact isBullet_of_isPrefixOf checked rfl

/-- No bullet is a heading. -/
theorem isHeading_of_isBullet {trimmed : Text} (bullet : isBullet trimmed = true) :
    isHeading trimmed = false := by
  obtain ⟨rest, rfl⟩ := List.isPrefixOf_iff_prefix.mp bullet
  rfl

/-- No checklist item is a rule. -/
theorem isRule_of_isChecklistItem {trimmed : Text} (item : isChecklistItem trimmed = true) :
    isRule trimmed = false := by
  rcases Bool.or_eq_true_iff.mp item with unchecked | checked
  · obtain ⟨rest, rfl⟩ := List.isPrefixOf_iff_prefix.mp unchecked
    rfl
  · obtain ⟨rest, rfl⟩ := List.isPrefixOf_iff_prefix.mp checked
    rfl

/-- How a line outside of comments is read. -/
theorem step_of_visible {state : State} {line : Text} (outside : state.inComment = false)
    (visible : opensComment line = false) :
    state.step line =
      if isHeading (Text.trim line) then state.readHeading (Text.trim line)
      else if !state.capturing then (state, none)
      else if isRule (Text.trim line) then
        ({ state.cleared with capturing := false }, state.piece?)
      else if isChecklistItem (Text.trim line) then (state, none)
      else state.readNote (Text.trim line) := by
  unfold opensComment at visible
  simp only [State.step, outside, visible, Bool.or_self, Bool.false_eq_true, ↓reduceIte]

/-- A checklist item is passed over. -/
theorem step_of_item {state : State} {line : Text} (outside : state.inComment = false)
    (visible : opensComment line = false) (item : isChecklistItem (Text.trim line) = true) :
    state.step line = (state, none) := by
  have noHeading := isHeading_of_isBullet (isBullet_of_isChecklistItem item)
  rw [step_of_visible outside visible, noHeading, isRule_of_isChecklistItem item, item]
  cases state.capturing <;> rfl

/-- The state after some lines without a bullet, if nothing but a bullet ends what is open. -/
def State.continued (state : State) (lines : List Text) : State :=
  if state.capturing then { state with buffer := state.buffer ++ lines.map Text.trim } else state

/-- A line that goes on with an item is put behind the open notes, and ends nothing. -/
theorem step_of_continuation {state : State} {line : Text} (outside : state.inComment = false)
    (visible : opensComment line = false) (continues : continuesItem line = true) :
    state.step line = (state.continued [line], none) := by
  obtain ⟨filled, noBullet, noHeading⟩ := continuesItem_iff.mp continues
  have noRule : isRule (Text.trim line) = false :=
    Bool.eq_false_iff.mpr fun rule =>
      Bool.false_ne_true (noBullet.symm.trans (isBullet_of_isRule rule))
  have noItem : isChecklistItem (Text.trim line) = false :=
    Bool.eq_false_iff.mpr fun item =>
      Bool.false_ne_true (noBullet.symm.trans (isBullet_of_isChecklistItem item))
  have trimmed : notes [line] = [line].map Text.trim :=
    notes_of_unbulleted fun other member => by
      rw [List.mem_singleton.mp member]
      exact ⟨filled, noBullet⟩
  rw [step_of_visible outside visible, noHeading, noRule, noItem,
    readNote_of_continuation noBullet, trimmed]
  unfold State.continued
  cases state.capturing <;> rfl

/-- Lines that go on with an item continue what is open before it. -/
theorem run_continuation {state : State} {lines : List Text} (outside : state.inComment = false)
    (visible : ∀ line ∈ lines, opensComment line = false)
    (continues : ∀ line ∈ lines, continuesItem line = true) (rest : List Text) :
    state.run (lines ++ rest) = (state.continued lines).run rest := by
  induction lines generalizing state with
  | nil =>
      unfold State.continued
      rw [List.map_nil, List.append_nil, ite_self]
      rfl
  | cons line others ih =>
      have next : (state.continued [line]).inComment = false := by
        unfold State.continued
        split <;> exact outside
      have both : (state.continued [line]).continued others = state.continued (line :: others) := by
        unfold State.continued
        cases capturing : state.capturing with
        | false => simp only [capturing, Bool.false_eq_true, ↓reduceIte]
        | true =>
            simp only [↓reduceIte, List.map_cons, List.map_nil, List.append_assoc,
              List.singleton_append]
      rw [List.cons_append, State.run_cons,
        step_of_continuation outside (visible line List.mem_cons_self)
          (continues line List.mem_cons_self),
        Option.toList_none, List.nil_append,
        ih next (fun other member => visible other (List.mem_cons_of_mem _ member))
          (fun other member => continues other (List.mem_cons_of_mem _ member)), both]

/-! ## What the scanner collects -/

/-- A heading that ends a captured section leaves no notes. -/
theorem readHeading_buffer (state : State) (heading : Text) :
    (state.readHeading heading).1.buffer = if state.capturing then [] else state.buffer := by
  unfold State.readHeading
  cases state.capturing <;> cases sectionCategory? heading <;> rfl

/-- What is collected after a line was collected before it or is the note of the line. -/
theorem mem_buffer_step {state : State} {line note : Text}
    (member : note ∈ (state.step line).1.buffer) : note ∈ state.buffer ∨ note ∈ notes [line] := by
  by_cases hidden : state.inComment = true ∨ opensComment line = true
  · rw [step_of_comment hidden] at member
    exact Or.inl member
  · obtain ⟨outside, visible⟩ := not_or.mp hidden
    rw [step_of_visible (Bool.eq_false_iff.mpr outside) (Bool.eq_false_iff.mpr visible)] at member
    split at member
    · rw [readHeading_buffer] at member
      split at member
      · cases member
      · exact Or.inl member
    split at member
    · exact Or.inl member
    split at member
    · cases member
    split at member
    · exact Or.inl member
    cases bullet : isBullet (Text.trim line) with
    | true =>
        rw [readNote_of_bullet bullet] at member
        exact Or.inr member
    | false =>
        rw [readNote_of_continuation bullet] at member
        exact List.mem_append.mp member

/-- Reading lines keeps it so that all collected notes end visibly. -/
theorem endsVisibly_of_mem_buffer {state : State} (shown : ∀ note ∈ state.buffer, note.EndsVisibly)
    {lines : List Text} : ∀ note ∈ (state.after lines).buffer, note.EndsVisibly := by
  refine after_induction (motive := fun state => ∀ note ∈ state.buffer, note.EndsVisibly)
    (fun state line _ shownBefore note member => ?_) shown
  rcases mem_buffer_step member with earlier | added
  · exact shownBefore note earlier
  · exact endsVisibly_of_mem_notes added

/-- Lines in which no comment begins do not lead into one. -/
theorem inComment_after {state : State} {lines : List Text} (outside : state.inComment = false)
    (visible : ∀ line ∈ lines, opensComment line = false) :
    (state.after lines).inComment = false :=
  after_induction (motive := fun state => state.inComment = false)
    (fun _ line member outside => inComment_step outside (visible line member)) outside

/-- With the same lines to come two collections give the same pieces if their first contents are the
same, since those after a bullet do not depend on them. -/
theorem pending_eq_iff {category : Category} {first second lines : List Text} :
    pending category first lines = pending category second lines ↔
      content? (first ++ notes (leadingGroup (noteLines lines))) =
        content? (second ++ notes (leadingGroup (noteLines lines))) := by
  have distinct : Function.Injective fun content => (⟨content, category⟩ : Piece) :=
    fun _ _ same => congrArg Piece.content same
  have atMostOne : ∀ left right : Option Text, left.toList = right.toList ↔ left = right := by
    intro left right
    cases left <;> cases right <;> simp
  unfold pending
  rw [List.map_inj_right distinct, List.append_left_inj, atMostOne]

/-- Lines that go on with an item come to nothing where no section is captured, or if they are a
single star that no line of the same group stands with. -/
theorem run_continued_iff {state : State} {lines after : List Text} (settled : state.Settled)
    (shown : ∀ note ∈ state.buffer, note.EndsVisibly)
    (continues : ∀ line ∈ lines, continuesItem line = true)
    (visible : ∀ line ∈ after, opensComment line = false) :
    (state.continued lines).run after = state.run after ↔
      lines = [] ∨ state.capturing = false ∨
        (state.buffer = [] ∧ lines.map Text.trim = [['*']] ∧
          leadingGroup (noteLines (untilHeading after)) = []) := by
  cases capturing : state.capturing with
  | false =>
      have same : state.continued lines = state := by
        unfold State.continued
        rw [capturing, if_neg Bool.false_ne_true]
      simp only [same, true_or, or_true]
  | true =>
      have next : state.continued lines =
          { state with buffer := state.buffer ++ lines.map Text.trim } := by
        unfold State.continued
        rw [capturing, if_pos rfl]
      have settledNext : (state.continued lines).Settled := by
        rw [next]
        exact ⟨settled.outside, fun skipping => by
          rw [capturing] at skipping
          cases skipping⟩
      have leading : notes (leadingGroup (noteLines (untilHeading after))) =
          (leadingGroup (noteLines (untilHeading after))).map Text.trim :=
        notes_of_unbulleted fun line member => unbulleted_of_mem_leadingGroup member
      have plain : ∀ note ∈ lines.map Text.trim ++
          (leadingGroup (noteLines (untilHeading after))).map Text.trim, Plain note := by
        intro note member
        rw [← List.map_append] at member
        obtain ⟨line, origin, rfl⟩ := List.mem_map.mp member
        rcases List.mem_append.mp origin with added | later
        · obtain ⟨filled, undashed, _⟩ := continuesItem_iff.mp (continues line added)
          exact plain_trim filled undashed
        · obtain ⟨filled, undashed⟩ := unbulleted_of_mem_leadingGroup later
          exact plain_trim filled undashed
      rw [run_of_visible settledNext visible, run_of_visible settled visible,
        List.append_left_inj, next]
      unfold State.remaining
      rw [capturing, if_pos rfl, if_pos rfl, pending_eq_iff, leading, List.append_assoc,
        content?_insert_iff shown plain, List.map_eq_nil_iff, List.map_eq_nil_iff]
      simp only [reduceCtorEq, false_or]

/-- Two journals give the same thoughts if and only if they give the same pieces. -/
theorem atomize_eq_iff (taxonomy : Taxonomy) (date first second : Text) :
    taxonomy.atomize date first = taxonomy.atomize date second ↔
      State.start.run (Text.lines first) = State.start.run (Text.lines second) := by
  refine List.map_inj_right fun left right same => ?_
  obtain ⟨content, category⟩ := left
  obtain ⟨otherContent, otherCategory⟩ := right
  have contents : content = otherContent := congrArg Thought.content same
  have categories : category = otherCategory := congrArg Thought.category same
  rw [contents, categories]

/-- **Checklist items.** Whatever the taxonomy and the date, in a journal without comments a
checklist item can be deleted without a change. Together with lines that go on with it, it can be
deleted without a change exactly if these are none or come to nothing: no section is captured there,
or they are a single star, nothing is collected before the item, and no line of the section comes
between the star and the next bullet, blank lines and checklist items apart. -/
theorem atomize_without_item_iff (taxonomy : Taxonomy) (date : Text) {body kept shorter item : Text}
    {before continuation after : List Text}
    (lines : Text.lines body = before ++ item :: (continuation ++ after))
    (linesKept : Text.lines kept = before ++ (continuation ++ after))
    (linesShorter : Text.lines shorter = before ++ after)
    (visible : ∀ line ∈ Text.lines body, opensComment line = false)
    (checklist : isChecklistItem (Text.trim item) = true)
    (continues : ∀ line ∈ continuation, continuesItem line = true) :
    taxonomy.atomize date kept = taxonomy.atomize date body ∧
    (taxonomy.atomize date shorter = taxonomy.atomize date body ↔
      continuation = [] ∨ (State.start.after before).capturing = false ∨
        ((State.start.after before).buffer = [] ∧ continuation.map Text.trim = [['*']] ∧
          leadingGroup (noteLines (untilHeading after)) = [])) := by
  rw [lines] at visible
  simp only [List.mem_append, List.mem_cons] at visible
  have settled : (State.start.after before).Settled :=
    settled_after (inComment_after rfl fun line member => visible line (Or.inl member))
  have shown : ∀ note ∈ (State.start.after before).buffer, note.EndsVisibly :=
    endsVisibly_of_mem_buffer fun _ member => absurd member List.not_mem_nil
  have visibleContinuation : ∀ line ∈ continuation, opensComment line = false :=
    fun line member => visible line (Or.inr (Or.inr (Or.inl member)))
  have visibleAfter : ∀ line ∈ after, opensComment line = false :=
    fun line member => visible line (Or.inr (Or.inr (Or.inr member)))
  have passed : (State.start.after before).run (item :: (continuation ++ after)) =
      (State.start.after before).run (continuation ++ after) := by
    rw [State.run_cons, step_of_item settled.outside (visible item (Or.inr (Or.inl rfl))) checklist]
    rfl
  rw [atomize_eq_iff, atomize_eq_iff, lines, linesKept, linesShorter,
    run_append State.start before (item :: _), passed,
    run_continuation settled.outside visibleContinuation continues]
  refine ⟨?_, ?_⟩
  · rw [run_append, run_continuation settled.outside visibleContinuation continues]
  · rw [run_append, List.append_right_inj, eq_comm,
      run_continued_iff settled shown continues visibleAfter]

/-- A star that stands alone between a checklist item and a bullet. -/
theorem atomize_without_item_before_star :
    let body := "## Area\n- [ ] task\n  *\n\n- b".toList
    let kept := "## Area\n  *\n\n- b".toList
    let shorter := "## Area\n\n- b".toList
    let taxonomy : Taxonomy := ⟨Dictionary.empty⟩
    isChecklistItem (Text.trim "- [ ] task".toList) = true ∧
      continuesItem "  *".toList = true ∧
      taxonomy.atomize ['1'] kept = taxonomy.atomize ['1'] body ∧
      taxonomy.atomize ['1'] shorter = taxonomy.atomize ['1'] body := by
  intro body kept shorter taxonomy
  have lines : Text.lines body = ["## Area".toList] ++ "- [ ] task".toList ::
      (["  *".toList] ++ [[], "- b".toList]) := by decide +kernel
  have linesKept : Text.lines kept = ["## Area".toList] ++
      (["  *".toList] ++ [[], "- b".toList]) := by decide +kernel
  have linesShorter : Text.lines shorter = ["## Area".toList] ++ [[], "- b".toList] := by
    decide +kernel
  have checklist : isChecklistItem (Text.trim "- [ ] task".toList) = true := by decide +kernel
  have continues : ∀ line ∈ ["  *".toList], continuesItem line = true := by decide +kernel
  obtain ⟨same, iff⟩ := atomize_without_item_iff taxonomy ['1'] lines linesKept linesShorter
    (by decide +kernel) checklist continues
  refine ⟨checklist, continues _ List.mem_cons_self, same, iff.mpr (Or.inr (Or.inr ?_))⟩
  decide +kernel

/-- The line after a checklist item continues the thought before the item. -/
theorem item_continuation_is_captured :
    let body := "## Area\n- a\n- [ ] task\n  details".toList
    let shorter := "## Area\n- a".toList
    let taxonomy : Taxonomy := ⟨Dictionary.empty⟩
    Text.lines body = Text.lines shorter ++ ["- [ ] task".toList, "  details".toList] ∧
      (∀ line ∈ Text.lines body, opensComment line = false ∧ closesComment line = false) ∧
      isChecklistItem (Text.trim "- [ ] task".toList) = true ∧
      continuesItem "  details".toList = true ∧
      (taxonomy.atomize ['1'] body).map Thought.content = ["a\ndetails".toList] ∧
      (taxonomy.atomize ['1'] shorter).map Thought.content = [['a']] ∧
      taxonomy.atomize ['1'] shorter ≠ taxonomy.atomize ['1'] body := by
  intro body shorter taxonomy
  have captured : (taxonomy.atomize ['1'] body).map Thought.content = ["a\ndetails".toList] := by
    decide +kernel
  have before : (taxonomy.atomize ['1'] shorter).map Thought.content = [['a']] := by
    decide +kernel
  refine ⟨by decide +kernel, by decide +kernel, by decide +kernel, by decide +kernel, captured,
    before, fun same => ?_⟩
  rw [same, captured] at before
  exact absurd before (by decide +kernel)

end ThoughtJournal.Scan
