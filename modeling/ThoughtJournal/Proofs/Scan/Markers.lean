import ThoughtJournal.Proofs.Scan.Shape

/-! # Contents that are only a marker

A star never becomes a thought, and neither does a dash that is left of a bullet when its marker is
taken away. But a content is looked at for a lone dash before its last marker goes and not after it, so
a dash is left over where a bullet holds a bullet that holds a dash. These are the lines of three
dashes with blank characters between them, as far as a space follows the second dash and the group has
no other note: they are captured as a dash, and nothing else is (`Scan.bare_marker_iff`).
-/

namespace ThoughtJournal.Scan

/-! ## Groups -/

/-- A bullet group is a bullet and lines of its section without a bullet. -/
theorem exists_of_mem_bulletGroups {lines group : List Text} (member : group ∈ bulletGroups lines) :
    ∃ line rest, group = line :: rest ∧ isBullet (Text.trim line) = true ∧
      ∀ other ∈ rest, other ∈ lines ∧ isBullet (Text.trim other) = false := by
  induction lines with
  | nil => cases member
  | cons line later ih =>
      have further : group ∈ bulletGroups later → ∃ first rest, group = first :: rest ∧
          isBullet (Text.trim first) = true ∧
          ∀ other ∈ rest, other ∈ line :: later ∧ isBullet (Text.trim other) = false := by
        intro found
        obtain ⟨first, rest, split, bullet, plain⟩ := ih found
        exact ⟨first, rest, split, bullet, fun other listed =>
          ⟨List.mem_cons_of_mem line (plain other listed).1, (plain other listed).2⟩⟩
      cases bullet : isBullet (Text.trim line) with
      | false =>
          rw [bulletGroups, bullet, if_neg Bool.false_ne_true] at member
          exact further member
      | true =>
          rw [bulletGroups, bullet, if_pos rfl] at member
          rcases List.mem_cons.mp member with here | found
          · refine ⟨line, leadingGroup later, here, bullet, fun other listed => ?_⟩
            obtain ⟨origin, plain⟩ := of_mem_leadingGroup listed
            exact ⟨List.mem_cons_of_mem line origin, plain⟩
          · exact further found

/-- The pieces of a journal are the contents of the groups of its sections. -/
theorem mem_pieces_iff {body content : Text} {category : Category} :
    (⟨content, category⟩ : Piece) ∈ pieces body ↔
      ∃ part ∈ sections (withoutComments (Text.lines body)),
        sectionCategory? part.heading = some category ∧
        ∃ group ∈ leadingGroup (noteLines part.lines) :: bulletGroups (noteLines part.lines),
          content? (notes group) = some content := by
  rw [pieces_eq_outline, outline, List.mem_flatMap]
  refine exists_congr fun part => and_congr_right fun _ => ?_
  unfold Section.pieces
  cases sectionCategory? part.heading with
  | none => simp only [List.not_mem_nil, reduceCtorEq, false_and]
  | some named =>
      simp only [List.mem_map, List.mem_filterMap, Piece.mk.injEq, Option.some.injEq,
        groupContent?_eq]
      constructor
      · rintro ⟨_, found, rfl, rfl⟩
        exact ⟨rfl, found⟩
      · rintro ⟨rfl, found⟩
        exact ⟨content, found, rfl, rfl⟩

/-! ## Dashes -/

/-- Three dashes with blank characters between them, of which those after the second dash begin with a
space. -/
def IsSpacedRule (trimmed : Text) : Prop :=
  ∃ first second : Text, first.isAllBlank = true ∧ second.isAllBlank = true ∧
    trimmed = '-' :: (first ++ '-' :: ' ' :: (second ++ ['-']))

theorem exists_of_isBullet {trimmed : Text} (bullet : isBullet trimmed = true) :
    ∃ rest, trimmed = '-' :: rest := by
  obtain ⟨rest, split⟩ := List.isPrefixOf_iff_prefix.mp bullet
  exact ⟨rest, split.symm⟩

/-- Whether the space after it belongs to the marker makes no difference to what is visible of a
bullet. -/
theorem trimStart_withoutBullet (rest : Text) :
    Text.trimStart (withoutBullet ('-' :: rest)) = Text.trimStart rest := by
  unfold withoutBullet
  split
  · rename_i split
    cases split
    exact (Text.trimStart_cons_of_blank _ rfl).symm
  · rename_i split
    cases split
    rfl
  · rename_i noDash
    exact absurd rfl (noDash rest)

theorem isSpacedRule_iff {rest : Text} :
    IsSpacedRule ('-' :: rest) ↔ ∃ second : Text, second.isAllBlank = true ∧
      Text.trimStart (withoutBullet ('-' :: rest)) = '-' :: ' ' :: (second ++ ['-']) := by
  have visible : Text.isBlank '-' = false := rfl
  rw [trimStart_withoutBullet]
  simp only [Text.trimStart_eq_cons_iff visible]
  constructor
  · rintro ⟨first, second, blank, blankLater, split⟩
    exact ⟨second, blankLater, first, blank, (List.cons.inj split).2⟩
  · rintro ⟨second, blankLater, first, blank, rfl⟩
    exact ⟨first, second, blank, blankLater, rfl⟩

/-- A single note comes down to a dash if it is a dash in a bullet. -/
theorem content?_singleton_eq_dash_iff {note : Text} (visible : note.EndsVisibly) :
    content? [note] = some ['-'] ↔ ∃ second : Text, second.isAllBlank = true ∧
      Text.trimStart note = '-' :: ' ' :: (second ++ ['-']) := by
  have dashed : Text.isBlank '-' = false := rfl
  rw [content?_singleton visible]
  constructor
  · intro found
    split at found
    · cases found
    rename_i kept
    have left : leadingNote note = ['-'] := Option.some.inj found
    unfold leadingNote withoutDashSpace at left
    split at left
    · rename_i rest marked
      obtain ⟨second, blank, rfl⟩ := (Text.trimStart_eq_cons_iff dashed).mp left
      exact ⟨second, blank, marked⟩
    · rw [Text.trimStart_trimStart] at left
      exact absurd (Or.inl left) kept
  · rintro ⟨second, blank, marked⟩
    have left : leadingNote note = ['-'] := by
      unfold leadingNote
      rw [marked]
      exact (Text.trimStart_eq_cons_iff dashed).mpr ⟨second, blank, rfl⟩
    have longer : Text.trimStart note ≠ ['-'] := by
      rw [marked]
      exact fun same => List.cons_ne_nil _ _ (List.cons.inj same).2
    rw [left, if_neg (not_or.mpr ⟨longer, by decide⟩)]

/-- A content of several notes has a line feed. -/
theorem content?_cons_ne_dash {note : Text} {rest : List Text}
    (visible : ∀ other ∈ note :: rest, other.EndsVisibly) (more : rest ≠ []) :
    content? (note :: rest) ≠ some ['-'] := by
  rw [content?_cons_of_more visible more]
  intro same
  have feeds : '\n' ∈ ['-'] :=
    Option.some.inj same ▸ List.mem_append_right (leadingNote note) List.mem_cons_self
  exact absurd feeds (by decide)

/-- Lines without a bullet do not come down to a dash. -/
theorem content?_of_plain_ne_dash {notes : List Text} (plain : ∀ note ∈ notes, Plain note) :
    content? notes ≠ some ['-'] := by
  match notes with
  | [] => exact fun same => nomatch same
  | [note] =>
      have only := plain note List.mem_cons_self
      intro found
      obtain ⟨second, _, dashed⟩ := (content?_singleton_eq_dash_iff only.ends).mp found
      have undashed := only.undashed
      rw [← only.begins, dashed] at undashed
      cases undashed
  | _ :: next :: others =>
      exact content?_cons_ne_dash (fun other member => (plain other member).ends)
        (List.cons_ne_nil next others)

/-- **Groups that come down to a dash** consist of a spaced rule. -/
theorem content?_group_eq_dash_iff {line : Text} {rest : List Text}
    (bullet : isBullet (Text.trim line) = true)
    (plain : ∀ other ∈ rest, Text.trim other ≠ [] ∧ isBullet (Text.trim other) = false) :
    content? (notes (line :: rest)) = some ['-'] ↔ rest = [] ∧ IsSpacedRule (Text.trim line) := by
  obtain ⟨tail, marked⟩ := exists_of_isBullet bullet
  have ends : ∀ note ∈ notes (line :: rest), note.EndsVisibly :=
    fun note member => endsVisibly_of_mem_notes member
  have split : notes (line :: rest) = notes [line] ++ rest.map Text.trim := by
    rw [← notes_of_unbulleted plain]
    exact notes_append [line] rest
  rw [split, notes_singleton] at ends ⊢
  rw [marked, isSpacedRule_iff, ← marked]
  cases empty : (withoutBullet (Text.trim line)).isEmpty with
  | true =>
      -- The bullet has no note, and the lines after it have no dash.
      have none : content? (rest.map Text.trim) ≠ some ['-'] :=
        content?_of_plain_ne_dash fun note member => by
          obtain ⟨other, listed, rfl⟩ := List.mem_map.mp member
          exact plain_trim (plain other listed).1 (plain other listed).2
      simp only [↓reduceIte, List.nil_append, none, List.isEmpty_iff.mp empty, Text.trimStart_nil,
        List.nil_eq, reduceCtorEq, and_false, exists_false]
  | false =>
      simp only [empty, Bool.false_eq_true, ↓reduceIte, List.singleton_append] at ends ⊢
      cases rest with
      | nil =>
          rw [List.map_nil, eq_self_iff_true, true_and]
          exact content?_singleton_eq_dash_iff (ends _ List.mem_cons_self)
      | cons next others =>
          have several : content? (withoutBullet (Text.trim line) ::
              (next :: others).map Text.trim) ≠ some ['-'] :=
            content?_cons_ne_dash ends (List.cons_ne_nil _ _)
          simp only [several, reduceCtorEq, false_and]

/-- A piece that is a dash comes from a group of which a spaced rule is the only line. -/
theorem dash_mem_pieces_iff {body : Text} {category : Category} :
    (⟨['-'], category⟩ : Piece) ∈ pieces body ↔
      ∃ part ∈ sections (withoutComments (Text.lines body)),
        sectionCategory? part.heading = some category ∧
        ∃ line, [line] ∈ bulletGroups (noteLines part.lines) ∧ IsSpacedRule (Text.trim line) := by
  rw [mem_pieces_iff]
  refine exists_congr fun part => and_congr_right fun _ => and_congr_right fun _ => ?_
  constructor
  · rintro ⟨group, member, found⟩
    rcases List.mem_cons.mp member with rfl | bulleted
    · rw [notes_of_unbulleted fun line listed => unbulleted_of_mem_leadingGroup listed] at found
      refine absurd found (content?_of_plain_ne_dash fun note listed => ?_)
      obtain ⟨line, origin, rfl⟩ := List.mem_map.mp listed
      have shown := unbulleted_of_mem_leadingGroup origin
      exact plain_trim shown.1 shown.2
    · obtain ⟨line, rest, rfl, bullet, later⟩ := exists_of_mem_bulletGroups bulleted
      have plain : ∀ other ∈ rest, Text.trim other ≠ [] ∧ isBullet (Text.trim other) = false :=
        fun other listed =>
          ⟨trim_ne_nil_of_mem_noteLines (later other listed).1, (later other listed).2⟩
      obtain ⟨rfl, rule⟩ := (content?_group_eq_dash_iff bullet plain).mp found
      exact ⟨line, bulleted, rule⟩
  · rintro ⟨line, bulleted, rule⟩
    have bullet : isBullet (Text.trim line) = true := by
      obtain ⟨_, _, _, _, dashed⟩ := rule
      rw [dashed]
      rfl
    refine ⟨[line], List.mem_cons_of_mem _ bulleted, ?_⟩
    exact (content?_group_eq_dash_iff bullet fun _ none => absurd none List.not_mem_nil).mpr
      ⟨rfl, rule⟩

/-- **Thoughts that are only a marker.** No thought is a star. A thought of a category is a dash if and
only if a section of the category has a spaced rule that is the only line of its group, blank lines and
checklist items apart. -/
theorem bare_marker_iff (taxonomy : Taxonomy) (date body : Text) :
    (∀ thought ∈ taxonomy.atomize date body, thought.content ≠ ['*']) ∧
    ∀ category, (∃ thought ∈ taxonomy.atomize date body,
        thought.content = ['-'] ∧ thought.category = category) ↔
      ∃ part ∈ sections (withoutComments (Text.lines body)),
        sectionCategory? part.heading = some category ∧
        ∃ line, [line] ∈ bulletGroups (noteLines part.lines) ∧ IsSpacedRule (Text.trim line) := by
  constructor
  · intro thought member
    obtain ⟨⟨content, category⟩, given, rfl⟩ := List.mem_map.mp member
    obtain ⟨_, _, _, group, _, found⟩ := mem_pieces_iff.mp given
    exact (content?_eq_some found).2.1
  · intro category
    rw [← dash_mem_pieces_iff]
    constructor
    · rintro ⟨thought, member, dash, named⟩
      obtain ⟨piece, given, rfl⟩ := List.mem_map.mp member
      obtain ⟨content, other⟩ := piece
      cases dash
      cases named
      exact given
    · intro given
      exact ⟨_, List.mem_map_of_mem given, rfl, rfl⟩

/-- Three spaced dashes are captured as a dash. -/
theorem spaced_rule_is_captured :
    let body := "## Area\n- - -".toList
    let taxonomy : Taxonomy := ⟨Dictionary.empty⟩
    (taxonomy.atomize ['1'] body).map Thought.content = [['-']] ∧
      ¬ ∀ thought ∈ taxonomy.atomize ['1'] body,
        thought.content ≠ ['-'] ∧ thought.content ≠ ['*'] := by
  intro body taxonomy
  exact ⟨by decide +kernel, by decide +kernel⟩

end ThoughtJournal.Scan
