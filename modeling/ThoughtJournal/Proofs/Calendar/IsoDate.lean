import Mathlib.Algebra.Group.Nat.Defs
import ThoughtJournal.Calendar
import ThoughtJournal.Text.Order

/-! # The order of ISO dates

The text of a day in a year of at most four digits is a zero-padded ISO date. Such texts are ordered
like the days (`Calendar.text_lt_text_iff`): every field has a fixed number of digits, numbers of
equally many digits are ordered like their digits (`Calendar.padded_append_lt`), and the fields
stand in the order in which they decide.
-/

namespace ThoughtJournal.Calendar

/-! ## Numbers with leading zeros -/

/-- Decimal digits are ordered by their characters. -/
theorem digitChar_lt_digitChar {first second : Nat} (lower : first < second)
    (digit : second < 10) : Nat.digitChar first < Nat.digitChar second := by
  apply Char.lt_def.mpr
  apply UInt32.lt_iff_toNat_lt.mpr
  change (Nat.digitChar first).toNat < (Nat.digitChar second).toNat
  rw [Nat.toNat_digitChar_of_lt_ten (Nat.lt_trans lower digit), Nat.toNat_digitChar_of_lt_ten digit]
  exact Nat.add_lt_add_left lower 48

theorem padded_one {n : Nat} (digit : n < 10) : padded 1 n = [Nat.digitChar n] := by
  unfold padded Text.ofNat
  rw [Nat.toDigits_of_lt_base digit]
  rfl

/-- The last digit comes after the digits of the rest. -/
theorem padded_succ (width n : Nat) :
    padded (width + 2) n = padded (width + 1) (n / 10) ++ [Nat.digitChar (n % 10)] := by
  unfold padded Text.ofNat
  dsimp only
  rw [Nat.toDigits_eq_if (by decide : 1 < 10)]
  split
  · rename_i digit
    rw [Nat.div_eq_of_lt digit, Nat.mod_eq_of_lt digit,
      Nat.toDigits_of_lt_base (by decide : 0 < 10)]
    simp only [List.length_singleton, Nat.add_sub_cancel, Nat.reduceSubDiff]
    rw [List.replicate_succ']
    rfl
  · rw [List.length_append, List.length_singleton, List.append_assoc]
    simp only [Nat.reduceSubDiff]

theorem div_ten_lt {width n : Nat} (bound : n < 10 ^ (width + 1)) : n / 10 < 10 ^ width := by
  apply Nat.div_lt_of_lt_mul
  rwa [Nat.mul_comm, ← Nat.pow_succ]

/-- A number that is not too long is padded to exactly the given width. -/
theorem length_padded {width n : Nat} (bound : n < 10 ^ (width + 1)) :
    (padded (width + 1) n).length = width + 1 := by
  induction width generalizing n with
  | zero => rw [padded_one bound, List.length_singleton]
  | succ width ih =>
      rw [padded_succ, List.length_append, ih (div_ten_lt bound), List.length_singleton]

/-- Of two numbers with equally many digits the smaller one comes first, whatever follows. -/
theorem padded_append_lt {width first second : Nat} (lower : first < second)
    (bound : second < 10 ^ (width + 1)) (left right : Text) :
    padded (width + 1) first ++ left < padded (width + 1) second ++ right := by
  induction width generalizing first second left right with
  | zero =>
      rw [padded_one (Nat.lt_trans lower bound), padded_one bound]
      exact List.cons_lt_cons_iff.mpr (Or.inl (digitChar_lt_digitChar lower bound))
  | succ width ih =>
      rw [padded_succ, padded_succ, List.append_assoc, List.append_assoc]
      rcases Nat.lt_or_eq_of_le (Nat.div_le_div_right (c := 10) (Nat.le_of_lt lower))
        with smaller | same
      · exact ih smaller (div_ten_lt bound) _ _
      · -- Equal leading digits leave the order to the last one.
        have last : first % 10 < second % 10 := by omega
        rw [same]
        apply List.append_left_lt
        exact List.cons_lt_cons_iff.mpr
          (Or.inl (digitChar_lt_digitChar last (Nat.mod_lt _ (by decide))))

/-! ## Days -/

/-- A date is before another by its year, then by its month, then by its day. -/
theorem Date.before_iff {left right : Date} :
    left.before right = true ↔ left.year < right.year ∨ left.year = right.year ∧
      (left.month < right.month ∨ left.month = right.month ∧ left.day < right.day) := by
  unfold Date.before
  simp only [Bool.or_eq_true, Bool.and_eq_true, decide_eq_true_eq, beq_iff_eq]

/-- Two days are the same or one is before the other. -/
theorem Date.before_trichotomy (left right : Date) :
    left.before right = true ∨ left = right ∨ right.before left = true := by
  rw [before_iff, before_iff]
  obtain ⟨year, month, day⟩ := left
  obtain ⟨otherYear, otherMonth, otherDay⟩ := right
  simp only [Date.mk.injEq]
  omega

theorem daysInMonth_le (year : Int) (month : Nat) : daysInMonth year month ≤ 31 := by
  unfold daysInMonth
  split
  · split <;> decide
  · split
    · decide
    · split <;> decide

theorem month_le_of_daysInMonth_pos {year : Int} {month : Nat} (days : 0 < daysInMonth year month) :
    month ≤ 12 := by
  apply Nat.le_of_not_lt
  intro outside
  unfold daysInMonth at days
  have none : ∀ other ≤ 12, (month == other) = false := by
    intro other small
    exact beq_eq_false_iff_ne.mpr (by omega)
  have notWithin : ¬ (1 ≤ month && month ≤ 12) = true := by
    simp only [Bool.and_eq_true, decide_eq_true_eq]
    omega
  rw [none 2 (by decide), none 4 (by decide), none 6 (by decide), none 9 (by decide),
    none 11 (by decide), if_neg notWithin] at days
  exact Nat.lt_irrefl 0 days

/-- A day that exists, in a year of at most four digits. -/
structure Date.IsIso (date : Date) : Prop where
  valid : date.isValid = true
  nonnegative : 0 ≤ date.year
  fourDigits : date.year ≤ 9999

/-- A zero-padded ISO date. -/
def IsIsoDate (text : Text) : Prop := ∃ date : Date, date.IsIso ∧ date.text = text

namespace Date.IsIso

variable {date left right : Date}

/-- The day of a date that can be written lies in its month. -/
theorem day_bounds (iso : date.IsIso) :
    1 ≤ date.day ∧ date.day ≤ daysInMonth date.year date.month := by
  have valid := iso.valid
  unfold isValid at valid
  simpa only [Bool.and_eq_true, decide_eq_true_eq] using valid

theorem day_lt (iso : date.IsIso) : date.day < 100 := by
  have bounds := iso.day_bounds
  have days := daysInMonth_le date.year date.month
  omega

theorem month_lt (iso : date.IsIso) : date.month < 100 := by
  have bounds := iso.day_bounds
  have twelve := month_le_of_daysInMonth_pos (Nat.lt_of_lt_of_le bounds.1 bounds.2)
  omega

theorem year_lt (iso : date.IsIso) : date.year.natAbs < 10000 := by
  have nonnegative := iso.nonnegative
  have fourDigits := iso.fourDigits
  omega

/-- The text of a date in the years that can be written: four digits, two and two, with dashes
between them. -/
theorem text_eq (iso : date.IsIso) :
    date.text = padded 4 date.year.natAbs ++
      '-' :: (padded 2 date.month ++ '-' :: padded 2 date.day) := by
  unfold text
  rw [if_neg (Int.not_lt.mpr iso.nonnegative)]
  simp only [List.nil_append, List.append_assoc, List.cons_append]

/-- The text of a date has ten characters. -/
theorem length_text (iso : date.IsIso) : date.text.length = 10 := by
  have year : (padded 4 date.year.natAbs).length = 4 := length_padded iso.year_lt
  have month : (padded 2 date.month).length = 2 := length_padded iso.month_lt
  have day : (padded 2 date.day).length = 2 := length_padded iso.day_lt
  rw [iso.text_eq, List.length_append, List.length_cons, List.length_append, List.length_cons,
    year, month, day]

/-- An earlier date has the smaller text. -/
theorem text_lt_text (leftIso : left.IsIso) (rightIso : right.IsIso)
    (earlier : left.before right = true) : left.text < right.text := by
  rw [leftIso.text_eq, rightIso.text_eq]
  rcases before_iff.mp earlier with year | ⟨sameYear, month | ⟨sameMonth, day⟩⟩
  · apply padded_append_lt _ rightIso.year_lt
    have nonnegative := leftIso.nonnegative
    omega
  · rw [sameYear]
    apply List.append_left_lt
    apply List.cons_lt_cons_iff.mpr
    exact Or.inr ⟨rfl, padded_append_lt month rightIso.month_lt _ _⟩
  · rw [sameYear, sameMonth]
    have days : padded 2 left.day ++ [] < padded 2 right.day ++ [] :=
      padded_append_lt day rightIso.day_lt [] []
    rw [List.append_nil, List.append_nil] at days
    apply List.append_left_lt
    apply List.cons_lt_cons_iff.mpr
    refine Or.inr ⟨rfl, ?_⟩
    apply List.append_left_lt
    exact List.cons_lt_cons_iff.mpr (Or.inr ⟨rfl, days⟩)

end Date.IsIso

/-- **ISO dates are ordered like the days.** -/
theorem text_lt_text_iff {left right : Date} (leftIso : left.IsIso) (rightIso : right.IsIso) :
    left.text < right.text ↔ left.before right = true := by
  constructor
  · intro lower
    rcases Date.before_trichotomy left right with earlier | rfl | later
    · exact earlier
    · exact absurd lower (List.lt_irrefl _)
    · exact absurd lower (List.lt_asymm (rightIso.text_lt_text leftIso later))
  · exact leftIso.text_lt_text rightIso

/-- Comparing two dates is comparing their texts. -/
theorem before_eq_before_text {left right : Date} (leftIso : left.IsIso) (rightIso : right.IsIso) :
    left.before right = Text.before left.text right.text := by
  rw [Bool.eq_iff_iff, Text.before_iff, text_lt_text_iff leftIso rightIso]

/-- Different days have different ISO dates. -/
theorem text_inj {left right : Date} (leftIso : left.IsIso) (rightIso : right.IsIso) :
    left.text = right.text ↔ left = right := by
  constructor
  · intro same
    rcases Date.before_trichotomy left right with earlier | equal | later
    · exact absurd same (Text.ne_of_lt (leftIso.text_lt_text rightIso earlier))
    · exact equal
    · exact absurd same.symm (Text.ne_of_lt (rightIso.text_lt_text leftIso later))
  · exact congrArg Date.text

end ThoughtJournal.Calendar
