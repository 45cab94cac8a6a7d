import Mathlib.Data.List.DropRight
import Mathlib.Data.List.Infix
import ThoughtJournal.Text.Basic

/-! # Lines, trimmed texts and fields

A text is either a last line without a line feed or a line, a line feed and another text
(`Text.line_induction`), and its lines are read off accordingly. So the lines of two texts with a
line feed between them are those of the first, closed with the line feed, followed by those of the
second (`Text.lines_append_line_feed`).

A carriage return before the line feed does not belong to the line. Whether it does makes no
difference to the trimmed line, or to whether a text without a carriage return occurs in it. Trimming
makes no difference to whether a text without blank characters occurs in a line either
(`Text.occursIn_trim`).

Splitting is the inverse of joining: the fields of a text are the only texts without the separator
that give the text when they are joined (`Text.splitOn_eq_iff`).
-/

namespace ThoughtJournal.Text

/-! ## Lines -/

/-- A line without a carriage return at its end. -/
def withoutReturn (line : Text) : Text :=
  if line.getLast? = some '\r' then line.dropLast else line

theorem withoutReturn_prefix (line : Text) : withoutReturn line <+: line := by
  unfold withoutReturn
  split
  · exact List.dropLast_prefix line
  · exact List.prefix_refl line

/-- Only the last character of a line can be its carriage return. -/
theorem withoutReturn_cons (c next : Char) (others : Text) :
    withoutReturn (c :: next :: others) = c :: withoutReturn (next :: others) := by
  unfold withoutReturn
  rw [List.getLast?_cons_cons, List.dropLast_cons_cons]
  split <;> rfl

/-- A character that does not end a line belongs to the first one. -/
theorem lines_cons_of_plain {c : Char} (noFeed : c ≠ '\n') {rest : Text}
    (noPair : c = '\r' → rest.head? ≠ some '\n') :
    lines (c :: rest) = if rest.isEmpty then [[c]] else consField c (lines rest) := by
  rw [lines.eq_4]
  · exact noFeed
  · intro tail returns feeds
    exact noPair returns (by rw [feeds, List.head?_cons])

/-- The first line feed ends the first line. -/
theorem lines_of_line_feed {line : Text} (free : '\n' ∉ line) (rest : Text) :
    lines (line ++ '\n' :: rest) = withoutReturn line :: lines rest := by
  induction line with
  | nil => exact lines_line_feed rest
  | cons c others ih =>
      obtain ⟨different, freeOthers⟩ := not_or.mp (List.mem_cons.not.mp free)
      cases others with
      | nil =>
          by_cases returns : c = '\r'
          · subst returns
            exact lines_carriage_return_line_feed rest
          · have kept : withoutReturn [c] = [c] := by simp [withoutReturn, returns]
            rw [List.singleton_append, lines_cons_of_plain (Ne.symm different) (absurd · returns),
              lines_line_feed, kept]
            rfl
      | cons next tail =>
          have apart : ((next :: tail) ++ '\n' :: rest).head? ≠ some '\n' := by
            rintro feeds
            rw [List.cons_append, List.head?_cons, Option.some.injEq] at feeds
            exact freeOthers (feeds ▸ List.mem_cons_self)
          rw [List.cons_append, lines_cons_of_plain (Ne.symm different) fun _ => apart,
            ih freeOthers, withoutReturn_cons]
          rfl

/-- A text without a line feed is one line, if it is any. -/
theorem lines_of_free {line : Text} (free : '\n' ∉ line) :
    lines line = if line = [] then [] else [line] := by
  induction line with
  | nil => rfl
  | cons c others ih =>
      obtain ⟨different, freeOthers⟩ := not_or.mp (List.mem_cons.not.mp free)
      have apart : others.head? ≠ some '\n' := fun feeds => freeOthers (List.mem_of_head? feeds)
      rw [lines_cons_of_plain (Ne.symm different) fun _ => apart, ih freeOthers]
      cases others with
      | nil => rfl
      | cons next tail => rfl

/-- Texts field by field: a last field without the separator, or a field in front of a separator and
another text. -/
theorem field_induction (separator : Char) {motive : Text → Prop}
    (last : ∀ field, separator ∉ field → motive field)
    (more : ∀ field rest, separator ∉ field → motive rest → motive (field ++ separator :: rest))
    (text : Text) : motive text := by
  by_cases present : separator ∈ text
  · obtain ⟨field, rest, split, free⟩ := List.eq_append_cons_of_mem present
    have shorter : rest.length < text.length := by
      rw [split, List.length_append, List.length_cons]
      omega
    rw [split]
    exact more field rest free (field_induction separator last more rest)
  · exact last text present
termination_by text.length

/-- Texts line by line. -/
theorem line_induction {motive : Text → Prop} (last : ∀ line, '\n' ∉ line → motive line)
    (more : ∀ line rest, '\n' ∉ line → motive rest → motive (line ++ '\n' :: rest))
    (text : Text) : motive text :=
  field_induction '\n' last more text

/-- The lines of two texts with a line feed between them. -/
theorem lines_append_line_feed (first second : Text) :
    lines (first ++ '\n' :: second) = lines (first ++ ['\n']) ++ lines second := by
  induction first using line_induction with
  | last line free => rw [lines_of_line_feed free, lines_of_line_feed free]; rfl
  | more line rest free ih =>
      rw [List.append_assoc, List.cons_append, lines_of_line_feed free, ih, List.append_assoc,
        List.cons_append, lines_of_line_feed free, List.cons_append]

/-- No line feed belongs to a line. -/
theorem line_feed_not_mem_of_mem_lines {text line : Text} (member : line ∈ lines text) :
    '\n' ∉ line := by
  induction text using line_induction with
  | last whole free =>
      rw [lines_of_free free] at member
      split at member
      · cases member
      · rw [List.mem_singleton.mp member]
        exact free
  | more first rest free ih =>
      rw [lines_of_line_feed free] at member
      rcases List.mem_cons.mp member with rfl | later
      · have part := withoutReturn_prefix first
        exact fun feeds => free (part.mem feeds)
      · exact ih later

/-! ## Trimming -/

/-- Dropping characters at the end is `List.rdropWhile`. -/
theorem dropEndWhile_eq_rdropWhile (p : Char → Bool) (text : Text) :
    dropEndWhile p text = text.rdropWhile p := rfl

theorem trimEnd_eq_rdropWhile (text : Text) : trimEnd text = text.rdropWhile isBlank :=
  dropEndWhile_eq_rdropWhile isBlank text

/-- A text whose last character is not blank. -/
def EndsVisibly (text : Text) : Prop := ∃ others c, text = others ++ [c] ∧ isBlank c = false

theorem EndsVisibly.ne_nil {text : Text} (visible : text.EndsVisibly) : text ≠ [] := by
  obtain ⟨others, c, rfl, _⟩ := visible
  exact List.concat_ne_nil c others

/-- A text that ends visibly has nothing to trim at its end. -/
theorem EndsVisibly.trimEnd_eq {text : Text} (visible : text.EndsVisibly) :
    trimEnd text = text := by
  obtain ⟨others, c, rfl, unblank⟩ := visible
  rw [trimEnd_eq_rdropWhile]
  exact List.rdropWhile_concat_neg isBlank others c (Bool.eq_false_iff.mp unblank)

/-- The end of a text that ends visibly does so too. -/
theorem EndsVisibly.of_suffix {text part : Text} (visible : text.EndsVisibly)
    (suffix : part <:+ text) (filled : part ≠ []) : part.EndsVisibly := by
  obtain ⟨others, c, rfl, unblank⟩ := visible
  obtain ⟨tail, last, rfl⟩ := (List.eq_nil_or_concat' part).resolve_left filled
  obtain ⟨before, split⟩ := suffix
  rw [← List.append_assoc] at split
  have same := List.singleton_inj.mp (List.append_inj' split rfl).2
  exact ⟨tail, c, by rw [same], unblank⟩

/-- A text ends visibly whatever stands in front of its visible end. -/
theorem EndsVisibly.append {text : Text} (visible : text.EndsVisibly) (before : Text) :
    (before ++ text).EndsVisibly := by
  obtain ⟨others, c, rfl, unblank⟩ := visible
  exact ⟨before ++ others, c, (List.append_assoc ..).symm, unblank⟩

/-- What is left of a text that ends visibly ends visibly. -/
theorem EndsVisibly.trimStart {text : Text} (visible : text.EndsVisibly) :
    (trimStart text).EndsVisibly := by
  refine visible.of_suffix (List.dropWhile_suffix _) fun blank => ?_
  obtain ⟨others, c, rfl, unblank⟩ := visible
  have all := List.dropWhile_eq_nil_iff.mp blank c (List.mem_append_right _ List.mem_cons_self)
  rw [unblank] at all
  cases all

/-- Trimming the start does not go beyond a text that ends visibly. -/
theorem EndsVisibly.trimStart_append {text : Text} (visible : text.EndsVisibly) (after : Text) :
    Text.trimStart (text ++ after) = Text.trimStart text ++ after := by
  have filled : (List.dropWhile isBlank text).isEmpty = false :=
    List.isEmpty_eq_false_iff.mpr visible.trimStart.ne_nil
  unfold Text.trimStart
  rw [List.dropWhile_append, filled]
  rfl

/-- Two texts that end visibly are trimmed together at the start of the first only. -/
theorem trim_append_of_endsVisibly {first second : Text} (begins : first.EndsVisibly)
    (ends : second.EndsVisibly) : trim (first ++ second) = trimStart first ++ second := by
  unfold trim
  rw [begins.trimStart_append]
  exact (ends.append _).trimEnd_eq

/-- A text that ends visibly is trimmed at its start only. -/
theorem trim_of_endsVisibly {text : Text} (visible : text.EndsVisibly) :
    trim text = trimStart text := visible.trimStart.trimEnd_eq

/-- What is left when the end is trimmed ends visibly. -/
theorem endsVisibly_trimEnd {text : Text} (filled : trimEnd text ≠ []) :
    (trimEnd text).EndsVisibly := by
  rw [trimEnd_eq_rdropWhile] at filled ⊢
  exact ⟨_, _, (List.dropLast_concat_getLast filled).symm,
    Bool.eq_false_iff.mpr (List.rdropWhile_last_not isBlank text filled)⟩

/-- What is left of a trimmed text ends visibly. -/
theorem endsVisibly_trim {text : Text} (filled : trim text ≠ []) : (trim text).EndsVisibly :=
  endsVisibly_trimEnd filled

/-- A trimmed start has nothing left to trim. -/
theorem trimStart_trimStart (text : Text) : trimStart (trimStart text) = trimStart text :=
  List.dropWhile_idempotent isBlank text

theorem trimEnd_prefix (text : Text) : trimEnd text <+: text := by
  rw [trimEnd_eq_rdropWhile]
  exact List.rdropWhile_prefix isBlank text

/-- A trimmed end has nothing left to trim. -/
theorem trimEnd_trimEnd (text : Text) : trimEnd (trimEnd text) = trimEnd text := by
  simp only [trimEnd_eq_rdropWhile, List.rdropWhile_idempotent isBlank text]

/-- A text with a character that is not blank. -/
def IsVisible (text : Text) : Prop := ∃ c ∈ text, isBlank c = false

/-- A text is blank if and only if no character of it is visible. -/
theorem isAllBlank_iff {text : Text} : text.isAllBlank = true ↔ ¬ text.IsVisible := by
  simp [isAllBlank, IsVisible]

/-- Nothing is left of a text if and only if it has no visible character. -/
theorem trim_eq_nil_iff {text : Text} : trim text = [] ↔ text.isAllBlank = true := by
  constructor
  · intro empty
    rw [trim, trimEnd_eq_rdropWhile] at empty
    have rest : ∀ c ∈ trimStart text, isBlank c = true := List.rdropWhile_eq_nil_iff.mp empty
    refine List.all_eq_true.mpr fun c member => ?_
    rw [← List.takeWhile_append_dropWhile (p := isBlank) (l := text)] at member
    rcases List.mem_append.mp member with first | later
    · exact List.mem_takeWhile_imp first
    · exact rest c later
  · intro blank
    have start : trimStart text = [] :=
      List.dropWhile_eq_nil_iff.mpr (List.all_eq_true.mp blank)
    rw [trim, start, trimEnd_nil]

/-- What begins with a visible character is left if only blank characters stand before it. -/
theorem trimStart_eq_cons_iff {text rest : Text} {c : Char} (visible : isBlank c = false) :
    trimStart text = c :: rest ↔
      ∃ blanks : Text, blanks.isAllBlank = true ∧ text = blanks ++ c :: rest := by
  constructor
  · intro trimmed
    refine ⟨text.takeWhile isBlank, List.all_takeWhile, ?_⟩
    rw [← trimmed]
    exact List.takeWhile_append_dropWhile.symm
  · rintro ⟨blanks, blank, rfl⟩
    unfold trimStart
    rw [List.dropWhile_append_of_pos (List.all_eq_true.mp blank)]
    exact trimStart_cons_of_not_blank rest visible

/-- A trimmed text begins visibly. -/
theorem trimStart_trim (text : Text) : trimStart (trim text) = trim text := by
  cases trimmed : trim text with
  | nil => rfl
  | cons c rest =>
      have kept : trim text <+: trimStart text := trimEnd_prefix _
      rw [trimmed] at kept
      obtain ⟨tail, split⟩ := kept
      have visible := trimStart_trimStart text
      rw [← split, List.cons_append] at visible
      cases blank : isBlank c with
      | false => exact trimStart_cons_of_not_blank rest blank
      | true =>
          rw [trimStart_cons_of_blank _ blank] at visible
          have shorter := congrArg List.length visible
          have bound := (List.dropWhile_suffix (l := rest ++ tail) isBlank).length_le
          simp only [trimStart, List.length_cons] at shorter
          omega

/-- Trimming leaves a part of a text. -/
theorem trim_infix (text : Text) : trim text <:+: text := by
  have start : trim text <+: trimStart text := trimEnd_prefix _
  exact start.isInfix.trans (List.dropWhile_suffix isBlank).isInfix

/-- A trimmed text has nothing left to trim. -/
theorem trim_trim (text : Text) : trim (trim text) = trim text := by
  have ends : trimEnd (trim text) = trim text := trimEnd_trimEnd _
  rw [trim, trimStart_trim, ends]

/-- A blank character at the beginning is trimmed away. -/
theorem trim_cons_of_blank {c : Char} (blank : isBlank c = true) (text : Text) :
    trim (c :: text) = trim text := by
  unfold trim
  rw [trimStart_cons_of_blank text blank]

/-- A blank character at the end is trimmed away. -/
theorem trim_concat_of_blank {c : Char} (blank : isBlank c = true) (text : Text) :
    trim (text ++ [c]) = trim text := by
  unfold trim trimStart
  rw [List.dropWhile_append]
  split
  · rename_i empty
    rw [List.isEmpty_iff.mp empty, List.dropWhile_cons, if_pos blank]
    rfl
  · simp only [trimEnd_eq_rdropWhile]
    exact List.rdropWhile_concat_pos isBlank _ c blank

/-- A carriage return at the end makes no difference to the trimmed line. -/
theorem trim_withoutReturn (line : Text) : trim (withoutReturn line) = trim line := by
  unfold withoutReturn
  split
  · rename_i returns
    obtain ⟨others, rfl⟩ := List.getLast?_eq_some_iff.mp returns
    rw [List.dropLast_concat, trim_concat_of_blank (by decide)]
  · rfl

/-! ## Occurrences -/

/-- A text occurs in another one if and only if it is an infix of it. -/
theorem occursIn_iff {part text : Text} : occursIn part text = true ↔ part <:+: text := by
  induction text with
  | nil => rw [occursIn, List.isEmpty_iff, List.infix_nil]
  | cons c rest ih =>
      rw [occursIn, Bool.or_eq_true, List.isPrefixOf_iff_prefix, ih, List.infix_cons_iff]

/-- What has no blank characters occurs in a text as it does without the blank start. -/
theorem infix_trimStart_iff {part : Text} (visible : ∀ c ∈ part, isBlank c = false)
    {text : Text} : part <:+: trimStart text ↔ part <:+: text := by
  refine ⟨fun occurs => occurs.trans (List.dropWhile_suffix _).isInfix, fun occurs => ?_⟩
  induction text with
  | nil => exact occurs
  | cons c rest ih =>
      cases blank : isBlank c with
      | false =>
          rw [trimStart_cons_of_not_blank rest blank]
          exact occurs
      | true =>
          rw [trimStart_cons_of_blank rest blank]
          rcases List.infix_cons_iff.mp occurs with starts | later
          · cases part with
            | nil => exact List.nil_infix
            | cons first others =>
                have same := (List.cons_prefix_cons.mp starts).1
                have unblank := visible first List.mem_cons_self
                rw [same, blank] at unblank
                cases unblank
          · exact ih later

/-- What has no blank characters occurs in a trimmed text as it does in the text. -/
theorem occursIn_trim {part : Text} (unbroken : part.any isBlank = false) (text : Text) :
    occursIn part (trim text) = occursIn part text := by
  have visible : ∀ c ∈ part, isBlank c = false :=
    fun c member => Bool.eq_false_iff.mpr (List.any_eq_false.mp unbroken c member)
  have reversed : ∀ c ∈ part.reverse, isBlank c = false :=
    fun c member => visible c (List.mem_reverse.mp member)
  rw [Bool.eq_iff_iff, occursIn_iff, occursIn_iff]
  calc part <:+: trim text
      ↔ part.reverse <:+: trimStart (trimStart text).reverse := by
        rw [trim, trimEnd, dropEndWhile, ← List.reverse_infix, List.reverse_reverse]
        rfl
    _ ↔ part <:+: trimStart text := by rw [infix_trimStart_iff reversed, List.reverse_infix]
    _ ↔ part <:+: text := infix_trimStart_iff visible

/-- A carriage return at the end is no part of what occurs. -/
theorem occursIn_withoutReturn {part : Text} (filled : part ≠ []) (free : '\r' ∉ part)
    (line : Text) : occursIn part (withoutReturn line) = occursIn part line := by
  unfold withoutReturn
  split
  · rename_i returns
    obtain ⟨others, rfl⟩ := List.getLast?_eq_some_iff.mp returns
    rw [List.dropLast_concat, Bool.eq_iff_iff, occursIn_iff, occursIn_iff, List.infix_concat_iff]
    refine ⟨Or.inr, fun occurs => occurs.resolve_left fun suffix => ?_⟩
    rcases List.suffix_concat_iff.mp suffix with empty | ⟨tail, rfl, _⟩
    · exact filled empty
    · exact free (List.mem_append_right _ List.mem_cons_self)
  · rfl

/-! ## Fields -/

/-- The first field is joined to the others with a separator. -/
theorem join_cons {separator : Char} {rest : List Text} (more : rest ≠ []) (field : Text) :
    join [separator] (field :: rest) = field ++ separator :: join [separator] rest := by
  cases rest with
  | nil => exact absurd rfl more
  | cons next others => rw [join, List.append_assoc, List.singleton_append]

/-- A text without the separator is one field. -/
theorem splitOn_of_free {separator : Char} {field : Text} (free : separator ∉ field) :
    splitOn separator field = [field] := by
  induction field with
  | nil => rfl
  | cons c others ih =>
      obtain ⟨different, freeOthers⟩ := not_or.mp (List.mem_cons.not.mp free)
      rw [splitOn_cons_of_ne (Ne.symm different), ih freeOthers]
      rfl

/-- The first separator ends the first field. -/
theorem splitOn_append {separator : Char} {field : Text} (free : separator ∉ field)
    (rest : Text) :
    splitOn separator (field ++ separator :: rest) = field :: splitOn separator rest := by
  induction field with
  | nil => exact splitOn_cons_self separator rest
  | cons c others ih =>
      obtain ⟨different, freeOthers⟩ := not_or.mp (List.mem_cons.not.mp free)
      rw [List.cons_append, splitOn_cons_of_ne (Ne.symm different), ih freeOthers]
      rfl

/-- Joined fields are found again. -/
theorem splitOn_join {separator : Char} {fields : List Text} (filled : fields ≠ [])
    (free : ∀ field ∈ fields, separator ∉ field) :
    splitOn separator (join [separator] fields) = fields := by
  induction fields with
  | nil => exact absurd rfl filled
  | cons field rest ih =>
      have freeField := free field List.mem_cons_self
      by_cases last : rest = []
      · rw [last, join_singleton, splitOn_of_free freeField]
      · rw [join_cons last, splitOn_append freeField,
          ih last fun other member => free other (List.mem_cons_of_mem field member)]

/-- Every text has a field. -/
theorem splitOn_ne_nil (separator : Char) (text : Text) : splitOn separator text ≠ [] := by
  induction text using field_induction separator with
  | last field free =>
      rw [splitOn_of_free free]
      exact List.cons_ne_nil _ _
  | more field rest free _ =>
      rw [splitOn_append free]
      exact List.cons_ne_nil _ _

/-- The fields of a text give the text again. -/
theorem join_splitOn (separator : Char) (text : Text) :
    join [separator] (splitOn separator text) = text := by
  induction text using field_induction separator with
  | last field free => rw [splitOn_of_free free, join_singleton]
  | more field rest free ih => rw [splitOn_append free, join_cons (splitOn_ne_nil separator rest), ih]

/-- No separator belongs to a field. -/
theorem not_mem_of_mem_splitOn {separator : Char} {text field : Text}
    (member : field ∈ splitOn separator text) : separator ∉ field := by
  induction text using field_induction separator with
  | last whole free =>
      rw [splitOn_of_free free] at member
      exact List.mem_singleton.mp member ▸ free
  | more first rest free ih =>
      rw [splitOn_append free] at member
      rcases List.mem_cons.mp member with rfl | later
      · exact free
      · exact ih later

/-- The fields of a text are the only texts without the separator that give it when they are
joined. -/
theorem splitOn_eq_iff {separator : Char} {text : Text} {fields : List Text}
    (filled : fields ≠ []) : splitOn separator text = fields ↔
      text = join [separator] fields ∧ ∀ field ∈ fields, separator ∉ field := by
  constructor
  · rintro rfl
    exact ⟨(join_splitOn separator text).symm, fun field member => not_mem_of_mem_splitOn member⟩
  · rintro ⟨rfl, free⟩
    exact splitOn_join filled free

end ThoughtJournal.Text
