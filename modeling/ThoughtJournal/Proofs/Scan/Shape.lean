import ThoughtJournal.Proofs.Scan.Checklist

/-! # The shape of thoughts

Every content that the scanner gives is trimmed, is neither empty nor a star, and consists of trimmed
lines that are not empty and in which no comment begins. Only the first of them may look like a bullet
or like a heading (`Scan.wellShaped_of_mem_atomize`).

The reason is what the scanner holds between two lines (`Scan.Orderly`): a note that may begin with
blank characters or with another dash, because a line is not trimmed again without its bullet, and
after it only lines without a bullet as they are. A bullet always begins a new collection, so it never
comes to stand behind another note. Every line keeps this (`Scan.orderly_step`), and what becomes a
content is joined from such a collection, its first note trimmed and stripped once more.
-/

namespace ThoughtJournal.Scan

/-! ## What is collected -/

/-- A part of one line outside of comments that ends visibly. -/
structure IsNote (note : Text) : Prop where
  ends : note.EndsVisibly
  oneLine : '\n' ∉ note
  visible : opensComment note = false

/-- What is collected of a line without a bullet: the trimmed line, which is no heading. -/
structure IsContinuation (note : Text) : Prop extends IsNote note, Plain note where
  noHeading : isHeading note = false

/-- A note and continuations of it. -/
def Orderly : List Text → Prop
  | [] => True
  | first :: rest => IsNote first ∧ ∀ note ∈ rest, IsContinuation note

theorem opensComment_of_infix {part line : Text} (within : part <:+: line)
    (visible : opensComment line = false) : opensComment part = false := by
  unfold opensComment at visible ⊢
  rw [Bool.eq_false_iff, ne_eq, Text.occursIn_iff] at visible ⊢
  exact fun occurs => visible (occurs.trans within)

/-- A part of a note that ends where the note ends. -/
theorem IsNote.of_suffix {note part : Text} (whole : IsNote note) (suffix : part <:+ note)
    (filled : part ≠ []) : IsNote part :=
  ⟨whole.ends.of_suffix suffix filled, fun feeds => whole.oneLine (suffix.mem feeds),
    opensComment_of_infix suffix.isInfix whole.visible⟩

/-- A trimmed line that is not blank is a note. -/
theorem isNote_trim {line : Text} (free : '\n' ∉ line) (visible : opensComment line = false)
    (filled : Text.trim line ≠ []) : IsNote (Text.trim line) :=
  ⟨Text.endsVisibly_trim filled, fun feeds => free ((Text.trim_infix line).mem feeds),
    opensComment_of_infix (Text.trim_infix line) visible⟩

/-- What is collected of one line outside of comments is a note. -/
theorem isNote_of_mem_notes {line note : Text} (free : '\n' ∉ line)
    (visible : opensComment line = false) (member : note ∈ notes [line]) : IsNote note := by
  have ends := endsVisibly_of_mem_notes member
  rw [notes_singleton] at member
  split at member
  · cases member
  · rw [List.mem_singleton.mp member] at ends ⊢
    have suffix := withoutBullet_suffix (Text.trim line)
    have shown : Text.trim line ≠ [] := fun blank =>
      ends.ne_nil (List.suffix_nil.mp (blank ▸ suffix))
    exact (isNote_trim free visible shown).of_suffix suffix ends.ne_nil

/-- What is collected of a line without a bullet is a continuation, unless the line is a heading. -/
theorem isContinuation_of_mem_notes {line note : Text} (free : '\n' ∉ line)
    (visible : opensComment line = false) (noHeading : isHeading (Text.trim line) = false)
    (noBullet : isBullet (Text.trim line) = false) (member : note ∈ notes [line]) :
    IsContinuation note := by
  have collected := isNote_of_mem_notes free visible member
  have filled : Text.trim line ≠ [] := by
    intro blank
    rw [notes_singleton, blank] at member
    cases member
  have trimmed : notes [line] = [Text.trim line] :=
    notes_of_unbulleted fun other single => by
      rw [List.mem_singleton.mp single]
      exact ⟨filled, noBullet⟩
  rw [trimmed] at member
  rw [List.mem_singleton.mp member] at collected ⊢
  exact { collected, plain_trim filled noBullet with noHeading }

theorem orderly_of_notes {notes : List Text} (few : notes.length ≤ 1)
    (collected : ∀ note ∈ notes, IsNote note) : Orderly notes := by
  match notes with
  | [] => trivial
  | [note] => exact ⟨collected note List.mem_cons_self, fun other later => nomatch later⟩
  | _ :: _ :: _ => exact absurd (Nat.le_of_succ_le_succ few) (Nat.not_succ_le_zero _)

/-- A continuation can be added to an orderly collection. -/
theorem Orderly.append {buffer added : List Text} (orderly : Orderly buffer)
    (continued : ∀ note ∈ added, IsContinuation note) (few : added.length ≤ 1) :
    Orderly (buffer ++ added) := by
  cases buffer with
  | nil => exact orderly_of_notes few fun note member => (continued note member).toIsNote
  | cons first rest =>
      refine ⟨orderly.1, fun note member => ?_⟩
      rcases List.mem_append.mp member with earlier | later
      · exact orderly.2 note earlier
      · exact continued note later

/-! ## What every line keeps -/

theorem length_notes_singleton (line : Text) : (notes [line]).length ≤ 1 := by
  rw [notes_singleton]
  split
  · exact Nat.zero_le 1
  · exact Nat.le_refl 1

/-- What is collected stays orderly. -/
theorem orderly_step {state : State} {line : Text} (free : '\n' ∉ line)
    (orderly : Orderly state.buffer) : Orderly (state.step line).1.buffer := by
  by_cases hidden : state.inComment = true ∨ opensComment line = true
  · rw [step_of_comment hidden]
    exact orderly
  obtain ⟨outside, shown⟩ := not_or.mp hidden
  have visible : opensComment line = false := Bool.eq_false_iff.mpr shown
  rw [step_of_visible (Bool.eq_false_iff.mpr outside) visible]
  cases heading : isHeading (Text.trim line) with
  | true =>
      rw [if_pos rfl, readHeading_buffer]
      split
      · trivial
      · exact orderly
  | false =>
      rw [if_neg Bool.false_ne_true]
      split
      · exact orderly
      split
      · trivial
      split
      · exact orderly
      cases bullet : isBullet (Text.trim line) with
      | true =>
          rw [readNote_of_bullet bullet]
          exact orderly_of_notes (length_notes_singleton line) fun note member =>
            isNote_of_mem_notes free visible member
      | false =>
          rw [readNote_of_continuation bullet]
          exact orderly.append
            (fun note member => isContinuation_of_mem_notes free visible heading bullet member)
            (length_notes_singleton line)

/-- A line ends the piece that is being collected or none. -/
theorem piece?_of_step {state : State} {line : Text} {piece : Piece}
    (ended : (state.step line).2 = some piece) : state.piece? = some piece := by
  by_cases hidden : state.inComment = true ∨ opensComment line = true
  · rw [step_of_comment hidden] at ended
    cases ended
  obtain ⟨outside, visible⟩ := not_or.mp hidden
  rw [step_of_visible (Bool.eq_false_iff.mpr outside) (Bool.eq_false_iff.mpr visible)] at ended
  split at ended
  · unfold State.readHeading at ended
    cases capturing : state.capturing <;> cases named : sectionCategory? (Text.trim line) <;>
      simp only [capturing, named, Bool.false_eq_true, ↓reduceIte, reduceCtorEq] at ended <;>
      exact ended
  split at ended
  · cases ended
  split at ended
  · exact ended
  split at ended
  · cases ended
  cases bullet : isBullet (Text.trim line) with
  | true =>
      rw [readNote_of_bullet bullet] at ended
      exact ended
  | false =>
      rw [readNote_of_continuation bullet] at ended
      cases ended

/-- Every piece has the content of an orderly collection. -/
theorem exists_orderly_of_mem_run {state : State} {lines : List Text} {piece : Piece}
    (free : ∀ line ∈ lines, '\n' ∉ line) (orderly : Orderly state.buffer)
    (member : piece ∈ state.run lines) :
    ∃ buffer, Orderly buffer ∧ content? buffer = some piece.content := by
  have collected : ∀ {other : State}, Orderly other.buffer → other.piece? = some piece →
      ∃ buffer, Orderly buffer ∧ content? buffer = some piece.content := by
    intro other tidy ended
    obtain ⟨content, found, rfl⟩ := Option.map_eq_some_iff.mp ended
    exact ⟨other.buffer, tidy, found⟩
  induction lines generalizing state with
  | nil =>
      rw [State.run_nil, Option.mem_toList] at member
      exact collected orderly member
  | cons line rest ih =>
      rw [State.run_cons, List.mem_append, Option.mem_toList] at member
      rcases member with now | later
      · exact collected orderly (piece?_of_step now)
      · exact ih (fun other listed => free other (List.mem_cons_of_mem line listed))
          (orderly_step (free line List.mem_cons_self) orderly) later

/-! ## What becomes of it -/

/-- A content as it can be stored: trimmed, neither empty nor a star, made of trimmed lines that are
not empty and in which no comment begins, the later ones without a bullet and no headings. -/
structure WellShaped (content : Text) : Prop where
  filled : content ≠ []
  unstarred : content ≠ ['*']
  trimmed : Text.trim content = content
  lines : ∀ line ∈ Text.splitOn '\n' content,
    line ≠ [] ∧ Text.trim line = line ∧ opensComment line = false
  later : ∀ line ∈ (Text.splitOn '\n' content).tail,
    isBullet line = false ∧ isHeading line = false

/-- A content is trimmed, and it is neither empty nor a star. -/
theorem content?_eq_some {buffer : List Text} {content : Text}
    (found : content? buffer = some content) :
    content ≠ [] ∧ content ≠ ['*'] ∧ Text.trim content = content := by
  unfold content? at found
  dsimp only at found
  generalize stripped : (if Text.trim (Text.join ['\n'] buffer) = ['-'] then []
    else Text.trim (withoutDashSpace (Text.trim (Text.join ['\n'] buffer)))) = text at found
  have trimmed : Text.trim text = text := by
    rw [← stripped]
    split
    · rfl
    · exact Text.trim_trim _
  split at found
  · cases found
  · rename_i proper
    rw [Bool.or_eq_true, not_or, List.isEmpty_iff, decide_eq_true_eq] at proper
    cases Option.some.inj found
    exact ⟨proper.1, proper.2, trimmed⟩

theorem withoutDashSpace_suffix (text : Text) : withoutDashSpace text <:+ text := by
  unfold withoutDashSpace
  split
  · exact ⟨['-', ' '], rfl⟩
  · exact List.suffix_refl text

theorem leadingNote_suffix (note : Text) : leadingNote note <:+ note :=
  ((List.dropWhile_suffix _).trans (withoutDashSpace_suffix _)).trans (List.dropWhile_suffix _)

/-- What is left of a first note is still a note. -/
theorem isNote_leadingNote {note : Text} (collected : IsNote note) : IsNote (leadingNote note) :=
  collected.of_suffix (leadingNote_suffix note)
    (endsVisibly_withoutDashSpace collected.ends.trimStart).trimStart.ne_nil

/-- Nothing is left to trim of what is left of a first note. -/
theorem trim_leadingNote {note : Text} (collected : IsNote note) :
    Text.trim (leadingNote note) = leadingNote note := by
  rw [Text.trim_of_endsVisibly (isNote_leadingNote collected).ends]
  exact Text.trimStart_trimStart _

theorem IsContinuation.trim_eq {note : Text} (continued : IsContinuation note) :
    Text.trim note = note := by
  rw [Text.trim_of_endsVisibly continued.ends, continued.begins]

/-- The first note is stripped, the others are kept as they are. -/
theorem content?_of_orderly {first : Text} {rest : List Text} {content : Text}
    (orderly : Orderly (first :: rest)) (found : content? (first :: rest) = some content) :
    content = Text.join ['\n'] (leadingNote first :: rest) := by
  have ends : ∀ note ∈ first :: rest, note.EndsVisibly := by
    intro note member
    rcases List.mem_cons.mp member with rfl | later
    · exact orderly.1.ends
    · exact (orderly.2 note later).ends
  by_cases single : rest = []
  · subst single
    rw [content?_singleton orderly.1.ends] at found
    split at found
    · cases found
    · exact (Option.some.inj found).symm
  · rw [content?_cons_of_more ends single] at found
    rw [Text.join_cons single]
    exact (Option.some.inj found).symm

/-- The content of an orderly collection is well shaped. -/
theorem wellShaped_of_orderly {buffer : List Text} {content : Text} (orderly : Orderly buffer)
    (found : content? buffer = some content) : WellShaped content := by
  obtain ⟨filled, unstarred, trimmed⟩ := content?_eq_some found
  cases buffer with
  | nil => cases found
  | cons first rest =>
      have split : Text.splitOn '\n' content = leadingNote first :: rest := by
        rw [content?_of_orderly orderly found]
        refine Text.splitOn_join (List.cons_ne_nil _ _) fun line member => ?_
        rcases List.mem_cons.mp member with rfl | later
        · exact (isNote_leadingNote orderly.1).oneLine
        · exact (orderly.2 line later).oneLine
      refine ⟨filled, unstarred, trimmed, ?_, ?_⟩
      · intro line member
        rw [split] at member
        rcases List.mem_cons.mp member with rfl | later
        · have leading := isNote_leadingNote orderly.1
          exact ⟨leading.ends.ne_nil, trim_leadingNote orderly.1, leading.visible⟩
        · have continued := orderly.2 line later
          exact ⟨continued.ends.ne_nil, continued.trim_eq, continued.visible⟩
      · intro line member
        rw [split] at member
        have continued := orderly.2 line member
        exact ⟨continued.undashed, continued.noHeading⟩

/-- **The shape of a thought.** Whatever the taxonomy, the date and the journal, a thought has a
content that is not empty, not a star and trimmed. Between its line feeds stand trimmed texts that are
not empty and in which no comment begins, and the ones after the first look neither like a bullet nor
like a heading. -/
theorem wellShaped_of_mem_atomize {taxonomy : Taxonomy} {date body : Text} {thought : Thought}
    (member : thought ∈ taxonomy.atomize date body) : WellShaped thought.content := by
  obtain ⟨piece, given, rfl⟩ := List.mem_map.mp member
  have start : Orderly State.start.buffer := trivial
  obtain ⟨buffer, orderly, found⟩ := exists_orderly_of_mem_run
    (fun line listed => Text.line_feed_not_mem_of_mem_lines listed) start given
  exact wellShaped_of_orderly orderly found

/-- A bullet of which another dash and blank characters are left, a line that goes on with it behind a
comment, and a checklist item between them. -/
theorem wellShaped_of_nested_bullet :
    let taxonomy : Taxonomy := ⟨Dictionary.empty⟩
    let body := "## Area\n -  - \t## a\n<!-- - -->\n- [ ] b\n\u3000c - d\r\n- *".toList
    let thought := taxonomy.thoughtOf ['1'] ⟨"## a\nc - d".toList, .area⟩
    thought ∈ taxonomy.atomize ['1'] body ∧ WellShaped thought.content := by
  intro taxonomy body thought
  have given : (⟨"## a\nc - d".toList, .area⟩ : Piece) ∈ pieces body := by decide +kernel
  have member : thought ∈ taxonomy.atomize ['1'] body := List.mem_map_of_mem given
  exact ⟨member, wellShaped_of_mem_atomize member⟩

end ThoughtJournal.Scan
