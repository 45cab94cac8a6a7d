import ThoughtJournal.Proofs.Text.Lines
import ThoughtJournal.Text.Lowercase

/-! # The forms of sigma

Lower-casing replaces every character on its own, save for the capital sigma, whose form depends on the
letters around it. So the lower-case form of a text stands in that of every text in which it stands
with the same forms of its sigmas (`Text.lowerBetween_eq_lower_iff`).

The nearest character on each side that is not passed over decides the form. A text that has these
characters for all of its sigmas, as far as they matter, settles the forms itself: it is then found
after lower-casing wherever it stands (`Text.forall_occursIn_lower_iff`). Next to a sigma that is not
settled a single letter is enough to change its form.
-/

namespace ThoughtJournal.Text

/-! ## Lower-casing in parts -/

/-- The capital sigma. -/
def capitalSigma : Char := Char.ofNat 0x3A3

/-- The lower-case form of a text between two others, the first of them given from its end. -/
def lowerBetween (reversedBefore : Text) : Text → Text → Text
  | [], _ => []
  | c :: rest, after =>
      lowerAt reversedBefore c (rest ++ after) ++ lowerBetween (c :: reversedBefore) rest after

/-- Of two texts in a row the first is lower-cased in front of the second, and the second behind the
first. -/
theorem lowerFrom_append (reversedBefore text after : Text) :
    lowerFrom reversedBefore (text ++ after) =
      lowerBetween reversedBefore text after ++ lowerFrom (text.reverse ++ reversedBefore) after := by
  induction text generalizing reversedBefore with
  | nil => rfl
  | cons c rest ih =>
      rw [List.cons_append, lowerFrom, ih, lowerBetween, List.append_assoc, List.reverse_cons,
        List.append_assoc, List.singleton_append]

theorem lowerBetween_nil (reversedBefore text : Text) :
    lowerBetween reversedBefore text [] = lowerFrom reversedBefore text := by
  induction text generalizing reversedBefore with
  | nil => rfl
  | cons c rest ih => rw [lowerBetween, lowerFrom, List.append_nil, ih]

/-- The lower-case form of a text with another one in it. -/
theorem lower_append (before text after : Text) :
    lower (before ++ (text ++ after)) =
      lowerBetween [] before (text ++ after) ++
        (lowerBetween before.reverse text after ++
          lowerFrom (text.reverse ++ before.reverse) after) := by
  rw [lower, lowerFrom_append, lowerFrom_append, List.append_nil]

/-! ## What depends on the surroundings -/

theorem beq_capitalSigma (c : Char) : (c.toNat == 0x3A3) = decide (c = capitalSigma) := by
  rw [Bool.eq_iff_iff, beq_iff_eq, decide_eq_true_eq, ← Char.toNat_inj]
  rfl

/-- The form of any other character does not depend on what is around it. -/
theorem lowerAt_of_ne {c : Char} (different : c ≠ capitalSigma) (before rest : Text) :
    lowerAt before c rest = lowerAt [] c [] := by
  unfold lowerAt
  rw [beq_capitalSigma, decide_eq_false different]
  rfl

/-- A sigma has its final form at the end of a word, and the usual one elsewhere. -/
theorem lowerAt_capitalSigma (before rest : Text) :
    lowerAt before capitalSigma rest =
      [Char.ofNat (if endsWord before rest then 0x3C2 else 0x3C3)] := rfl

/-- Around a character only what decides the form of a sigma makes a difference. -/
theorem lowerAt_eq_iff {c : Char} {before rest otherBefore otherRest : Text} :
    lowerAt before c rest = lowerAt otherBefore c otherRest ↔
      (c = capitalSigma → endsWord before rest = endsWord otherBefore otherRest) := by
  by_cases sigma : c = capitalSigma
  · subst sigma
    rw [lowerAt_capitalSigma, lowerAt_capitalSigma]
    cases endsWord before rest <;> cases endsWord otherBefore otherRest <;> decide
  · rw [lowerAt_of_ne sigma, lowerAt_of_ne sigma otherBefore]
    exact iff_of_true rfl fun same => absurd same sigma

/-- How long the form of a character is does not depend on what is around it. -/
theorem length_lowerAt (before : Text) (c : Char) (rest : Text) :
    (lowerAt before c rest).length = (lowerAt [] c []).length := by
  by_cases sigma : c = capitalSigma
  · rw [sigma]
    rfl
  · rw [lowerAt_of_ne sigma]

theorem lowerAt_ne_nil (before : Text) (c : Char) (rest : Text) : lowerAt before c rest ≠ [] := by
  unfold lowerAt
  split
  · exact List.cons_ne_nil _ _
  · split
    · exact List.cons_ne_nil _ _
    · exact List.cons_ne_nil _ _

/-- How long the form of a text is does not depend on what is around it. -/
theorem length_lowerBetween (reversedBefore text after : Text) :
    (lowerBetween reversedBefore text after).length = (lower text).length := by
  have alike : ∀ before otherBefore : Text,
      (lowerBetween before text after).length = (lowerFrom otherBefore text).length := by
    induction text with
    | nil => exact fun _ _ => rfl
    | cons c rest ih =>
        intro before otherBefore
        rw [lowerBetween, lowerFrom, List.length_append, List.length_append, length_lowerAt,
          length_lowerAt otherBefore, ih (c :: before) (c :: otherBefore)]
  exact alike reversedBefore []

theorem forall_sigma_nil {holds : Text → Text → Prop} :
    ∀ left right, [] = left ++ capitalSigma :: right → holds left right :=
  fun left right split =>
    absurd split.symm (List.append_ne_nil_of_right_ne_nil left (List.cons_ne_nil _ right))

/-- The capital sigmas of a text are its first character, if that is one, and those of the rest. -/
theorem forall_sigma_cons_iff {holds : Text → Text → Prop} {c : Char} {rest : Text} :
    (∀ left right, c :: rest = left ++ capitalSigma :: right → holds left right) ↔
      (c = capitalSigma → holds [] rest) ∧
        ∀ left right, rest = left ++ capitalSigma :: right → holds (c :: left) right := by
  constructor
  · intro all
    refine ⟨fun sigma => all [] rest (by rw [sigma, List.nil_append]), fun left right split => ?_⟩
    exact all (c :: left) right (by rw [split, List.cons_append])
  · rintro ⟨first, others⟩ left right split
    cases left with
    | nil =>
        obtain ⟨sigma, rfl⟩ := List.cons.inj split
        exact first sigma
    | cons d left =>
        obtain ⟨rfl, tail⟩ := List.cons.inj split
        exact others left right tail

/-- Every capital sigma of a text has between two others the form that it has without them. -/
def KeepsSigmas (before text after : Text) : Prop :=
  ∀ left right, text = left ++ capitalSigma :: right →
    endsWord (left.reverse ++ before.reverse) (right ++ after) = endsWord left.reverse right

/-- The first character of a text is replaced alike, and then the others are. -/
theorem lowerBetween_eq_lowerFrom_iff (reversedLeft reversedBefore text after : Text) :
    lowerBetween (reversedLeft ++ reversedBefore) text after = lowerFrom reversedLeft text ↔
      ∀ left right, text = left ++ capitalSigma :: right →
        endsWord (left.reverse ++ (reversedLeft ++ reversedBefore)) (right ++ after) =
          endsWord (left.reverse ++ reversedLeft) right := by
  induction text generalizing reversedLeft with
  | nil => exact iff_of_true rfl forall_sigma_nil
  | cons c rest ih =>
      have later := ih (c :: reversedLeft)
      rw [List.cons_append] at later
      rw [lowerBetween, lowerFrom, forall_sigma_cons_iff]
      simp only [List.reverse_cons, List.append_assoc, List.singleton_append]
      constructor
      · intro same
        have sizes : (lowerAt (reversedLeft ++ reversedBefore) c (rest ++ after)).length =
            (lowerAt reversedLeft c rest).length := by
          rw [length_lowerAt, length_lowerAt reversedLeft]
        obtain ⟨first, others⟩ := List.append_inj same sizes
        exact ⟨lowerAt_eq_iff.mp first, later.mp others⟩
      · rintro ⟨first, others⟩
        have begins : lowerAt (reversedLeft ++ reversedBefore) c (rest ++ after) =
            lowerAt reversedLeft c rest := lowerAt_eq_iff.mpr first
        rw [begins, later.mpr others]

/-- A text has its lower-case form between two others if and only if its sigmas keep their forms. -/
theorem lowerBetween_eq_lower_iff {before text after : Text} :
    lowerBetween before.reverse text after = lower text ↔ KeepsSigmas before text after := by
  have parts := lowerBetween_eq_lowerFrom_iff [] before.reverse text after
  simp only [List.nil_append, List.append_nil] at parts
  exact parts

instance (before text after : Text) : Decidable (KeepsSigmas before text after) :=
  decidable_of_iff _ lowerBetween_eq_lower_iff

/-- A text that keeps its sigmas is found after lower-casing. -/
theorem KeepsSigmas.occursIn_lower {before text after : Text}
    (kept : KeepsSigmas before text after) :
    occursIn (lower text) (lower (before ++ (text ++ after))) = true := by
  rw [occursIn_iff, lower_append, lowerBetween_eq_lower_iff.mpr kept]
  exact ⟨_, _, List.append_assoc _ _ _⟩

/-! ## Settled sigmas -/

/-- Whether the form of a sigma is decided by the two parts of a text around it, the first given from
its end, whatever stands around the text: a cased letter comes after the sigma, or else a character
that is not passed over comes before it, and this is no cased letter or there is one after the sigma
as well. -/
def sigmaSettled (reversedLeft right : Text) : Bool :=
  touchesCased right ||
    !reversedLeft.all isCaseIgnorable &&
      (!touchesCased reversedLeft || !right.all isCaseIgnorable)

/-- Every capital sigma of a text is settled. -/
def SettlesSigmas (text : Text) : Prop :=
  ∀ left right, text = left ++ capitalSigma :: right → sigmaSettled left.reverse right = true

/-- Whether every capital sigma in the rest of a text is settled. -/
def settlesAfter (reversedLeft : Text) : Text → Bool
  | [] => true
  | c :: rest =>
      (c != capitalSigma || sigmaSettled reversedLeft rest) && settlesAfter (c :: reversedLeft) rest

/-- Whether every sigma is settled can be decided going through the text. -/
theorem settlesAfter_iff {reversedLeft text : Text} : settlesAfter reversedLeft text = true ↔
    ∀ left right, text = left ++ capitalSigma :: right →
      sigmaSettled (left.reverse ++ reversedLeft) right = true := by
  induction text generalizing reversedLeft with
  | nil => exact iff_of_true rfl forall_sigma_nil
  | cons c rest ih =>
      rw [settlesAfter, Bool.and_eq_true, Bool.or_eq_true, bne_iff_ne, ih, forall_sigma_cons_iff,
        imp_iff_not_or]
      simp only [List.reverse_cons, List.append_assoc, List.singleton_append]
      rfl

instance (text : Text) : Decidable (SettlesSigmas text) :=
  decidable_of_iff (settlesAfter [] text = true) (by
    rw [settlesAfter_iff]
    simp only [List.append_nil]
    rfl)

/-- Characters that are passed over do not keep a letter away. -/
theorem touchesCased_append_of_ignorable {text : Text} (ignorable : text.all isCaseIgnorable = true)
    (more : Text) : touchesCased (text ++ more) = touchesCased more := by
  have dropped : text.dropWhile isCaseIgnorable = [] :=
    List.dropWhile_eq_nil_iff.mpr (List.all_eq_true.mp ignorable)
  unfold touchesCased
  rw [List.dropWhile_append, dropped]
  rfl

/-- Where all characters are passed over no letter is touched. -/
theorem touchesCased_of_ignorable {text : Text} (ignorable : text.all isCaseIgnorable = true) :
    touchesCased text = false := by
  have nothing := touchesCased_append_of_ignorable ignorable []
  rw [List.append_nil] at nothing
  exact nothing

/-- The first character that is not passed over keeps away what comes behind it. -/
theorem touchesCased_append_of_not_ignorable {text : Text}
    (significant : text.all isCaseIgnorable = false) (more : Text) :
    touchesCased (text ++ more) = touchesCased text := by
  have kept : text.dropWhile isCaseIgnorable ≠ [] := fun dropped =>
    Bool.false_ne_true (significant.symm.trans
      (List.all_eq_true.mpr (List.dropWhile_eq_nil_iff.mp dropped)))
  unfold touchesCased
  rw [List.dropWhile_append, List.isEmpty_eq_false_iff.mpr kept]
  cases dropped : text.dropWhile isCaseIgnorable with
  | nil => exact absurd dropped kept
  | cons c others => rfl

/-- A letter that is touched is so whatever comes behind it. -/
theorem touchesCased_append_of_touchesCased {text : Text} (cased : touchesCased text = true)
    (more : Text) : touchesCased (text ++ more) = true := by
  cases ignorable : text.all isCaseIgnorable with
  | true =>
      rw [touchesCased_of_ignorable ignorable] at cased
      cases cased
  | false => rw [touchesCased_append_of_not_ignorable ignorable, cased]

/-- A settled sigma has the same form in all surroundings. -/
theorem endsWord_of_settled {reversedLeft right : Text}
    (settled : sigmaSettled reversedLeft right = true) (reversedBefore after : Text) :
    endsWord (reversedLeft ++ reversedBefore) (right ++ after) = endsWord reversedLeft right := by
  unfold endsWord
  rcases Bool.or_eq_true_iff.mp settled with cased | both
  · rw [touchesCased_append_of_touchesCased cased, cased, Bool.not_true, Bool.and_false,
      Bool.and_false]
  · rw [Bool.and_eq_true, Bool.or_eq_true, Bool.not_eq_true', Bool.not_eq_true',
      Bool.not_eq_true'] at both
    obtain ⟨significant, others⟩ := both
    rw [touchesCased_append_of_not_ignorable significant]
    rcases others with uncased | significantAfter
    · rw [uncased, Bool.false_and, Bool.false_and]
    · rw [touchesCased_append_of_not_ignorable significantAfter]

/-- A text that settles its sigmas keeps their forms wherever it stands. -/
theorem SettlesSigmas.keepsSigmas {text : Text} (settles : SettlesSigmas text)
    (before after : Text) : KeepsSigmas before text after :=
  fun left right split => endsWord_of_settled (settles left right split) before.reverse after

/-! ## Sigmas that are not settled -/

/-- A cased letter that a text can be put next to. -/
def neighbour : Char := 'a'

/-- A neighbour on the side where nothing decides gives a sigma that is not settled the other form. -/
theorem endsWord_of_not_settled {reversedLeft right : Text}
    (unsettled : sigmaSettled reversedLeft right = false) :
    reversedLeft.all isCaseIgnorable = true ∧
        endsWord (reversedLeft ++ [neighbour]) right ≠ endsWord reversedLeft right ∨
      right.all isCaseIgnorable = true ∧
        endsWord reversedLeft (right ++ [neighbour]) ≠ endsWord reversedLeft right := by
  obtain ⟨uncased, undecided⟩ := Bool.or_eq_false_iff.mp unsettled
  have cased : touchesCased [neighbour] = true := by decide +kernel
  unfold endsWord
  cases ignorable : reversedLeft.all isCaseIgnorable with
  | true =>
      refine Or.inl ⟨rfl, ?_⟩
      rw [touchesCased_append_of_ignorable ignorable, touchesCased_of_ignorable ignorable, cased,
        uncased]
      decide
  | false =>
      rw [ignorable, Bool.not_false, Bool.true_and] at undecided
      obtain ⟨before, after⟩ := Bool.or_eq_false_iff.mp undecided
      rw [Bool.not_eq_false'] at before after
      refine Or.inr ⟨after, ?_⟩
      rw [touchesCased_append_of_ignorable after, before, cased, uncased]
      decide

/-- The letter put next to a text is not passed over, and neither is its capital. -/
theorem ne_of_isCaseIgnorable {c : Char} (ignorable : isCaseIgnorable c = true) :
    c ≠ 'A' ∧ c ≠ neighbour := by
  constructor
  · rintro rfl
    revert ignorable
    decide +kernel
  · rintro rfl
    revert ignorable
    decide +kernel

theorem ofNat_ne_neighbour {code : Nat} (different : code ≠ neighbour.toNat) :
    Char.ofNat code ≠ neighbour := by
  intro same
  by_cases valid : code.isValidChar
  · rw [Char.ofNat, dif_pos valid] at same
    exact different (congrArg Char.toNat same)
  · rw [Char.ofNat, dif_neg valid] at same
    cases same

/-- All partners beyond ASCII come after the neighbour. -/
theorem neighbour_lt_target : ∀ run ∈ caseRuns, neighbour.toNat < run.target := by decide +kernel

/-- No character that is passed over becomes the letter put next to a text. -/
theorem simpleLower_ne_neighbour {c : Char} (ignorable : isCaseIgnorable c = true) :
    simpleLower c ≠ neighbour := by
  obtain ⟨notCapital, notSmall⟩ := ne_of_isCaseIgnorable ignorable
  unfold simpleLower
  dsimp only
  split
  · split
    · apply ofNat_ne_neighbour
      intro same
      have capital : c.toNat = 'A'.toNat := Nat.add_right_cancel same
      exact notCapital (Char.toNat_inj.mp capital)
    · exact notSmall
  · cases found : caseRuns.findSome? fun run => run.lower? c.toNat with
    | none => exact notSmall
    | some code =>
        obtain ⟨run, listed, partner⟩ := List.exists_of_findSome?_eq_some found
        have above := neighbour_lt_target run listed
        unfold CaseRun.lower? at partner
        split at partner
        · have sum := Option.some.inj partner
          exact ofNat_ne_neighbour (by omega)
        · cases partner

/-- No sigma and no character that is passed over becomes the neighbour. -/
theorem neighbour_not_mem_lowerAt {c : Char} (passed : c = capitalSigma ∨ isCaseIgnorable c = true)
    (before rest : Text) : neighbour ∉ lowerAt before c rest := by
  rcases passed with rfl | ignorable
  · rw [lowerAt_capitalSigma]
    cases endsWord before rest <;> decide
  · unfold lowerAt
    split
    · split <;> decide
    · split
      · decide
      · rw [List.mem_singleton]
        exact (simpleLower_ne_neighbour ignorable).symm

/-- A text that begins with a sigma or with a character that is passed over is not found at the
letter put before it. -/
theorem not_lower_prefix_neighbour {c : Char}
    (passed : c = capitalSigma ∨ isCaseIgnorable c = true) (rest others : Text) :
    ¬ lower (c :: rest) <+: neighbour :: others := by
  intro starts
  have absent := neighbour_not_mem_lowerAt passed [] rest
  rw [lower, lowerFrom] at starts
  cases first : lowerAt [] c rest with
  | nil => exact lowerAt_ne_nil [] c rest first
  | cons d more =>
      rw [first, List.cons_append] at starts
      rw [first, (List.cons_prefix_cons.mp starts).1] at absent
      exact absent List.mem_cons_self

/-- A text that ends with a sigma or with a character that is passed over is not found at the letter
put behind it. -/
theorem not_lower_suffix_neighbour {c : Char}
    (passed : c = capitalSigma ∨ isCaseIgnorable c = true) (before others : Text) :
    ¬ lower (before ++ [c]) <:+ others ++ [neighbour] := by
  intro ends
  have absent := neighbour_not_mem_lowerAt passed before.reverse []
  have filled := lowerAt_ne_nil before.reverse c []
  have parts : lower (before ++ [c]) = lowerBetween [] before [c] ++ lowerAt before.reverse c [] := by
    rw [lower, lowerFrom_append, List.append_nil, lowerFrom, lowerFrom, List.append_nil]
  rw [parts] at ends
  rcases List.suffix_concat_iff.mp ends with none | ⟨more, same, _⟩
  · exact filled (List.append_eq_nil_iff.mp none).2
  · have last := congrArg List.getLast? same
    rw [List.getLast?_append_of_ne_nil _ filled, List.getLast?_concat] at last
    exact absent (List.mem_of_getLast? last)

/-- A neighbour before a text in which it changes a sigma: the text is not found after lower-casing. -/
theorem not_lower_infix_neighbour_cons {left right : Text}
    (passed : left.all isCaseIgnorable = true)
    (changed : endsWord (left.reverse ++ [neighbour]) right ≠ endsWord left.reverse right) :
    ¬ lower (left ++ capitalSigma :: right) <:+:
      lower (neighbour :: (left ++ capitalSigma :: right)) := by
  intro occurs
  have parts : lower (neighbour :: (left ++ capitalSigma :: right)) =
      neighbour :: lowerBetween [neighbour] (left ++ capitalSigma :: right) [] := by
    rw [lowerBetween_nil]
    rfl
  rw [parts, List.infix_cons_iff] at occurs
  rcases occurs with starts | inside
  · -- The first character of the text cannot become the neighbour.
    cases left with
    | nil => exact not_lower_prefix_neighbour (Or.inl rfl) right _ starts
    | cons c others =>
        have ignorable := List.all_eq_true.mp passed c List.mem_cons_self
        exact not_lower_prefix_neighbour (Or.inr ignorable) _ _ starts
  · have same := inside.eq_of_length (length_lowerBetween [neighbour] _ []).symm
    have kept : KeepsSigmas [neighbour] (left ++ capitalSigma :: right) [] :=
      lowerBetween_eq_lower_iff.mp same.symm
    have unchanged := kept left right rfl
    rw [List.append_nil] at unchanged
    exact changed unchanged

/-- A neighbour after a text in which it changes a sigma: the text is not found after lower-casing. -/
theorem not_lower_infix_concat_neighbour {left right : Text}
    (passed : right.all isCaseIgnorable = true)
    (changed : endsWord left.reverse (right ++ [neighbour]) ≠ endsWord left.reverse right) :
    ¬ lower (left ++ capitalSigma :: right) <:+:
      lower (left ++ capitalSigma :: right ++ [neighbour]) := by
  intro occurs
  have parts : lower (left ++ capitalSigma :: right ++ [neighbour]) =
      lowerBetween [] (left ++ capitalSigma :: right) [neighbour] ++ [neighbour] := by
    rw [lower, lowerFrom_append]
    rfl
  rw [parts, List.infix_concat_iff] at occurs
  rcases occurs with ends | inside
  · -- The last character of the text cannot become the neighbour.
    rcases List.eq_nil_or_concat' right with rfl | ⟨others, c, rfl⟩
    · exact not_lower_suffix_neighbour (Or.inl rfl) left _ ends
    · have member : c ∈ others ++ [c] := List.mem_append_right others List.mem_cons_self
      have ignorable := List.all_eq_true.mp passed c member
      rw [← List.cons_append, ← List.append_assoc] at ends
      exact not_lower_suffix_neighbour (Or.inr ignorable) _ _ ends
  · have same := inside.eq_of_length (length_lowerBetween [] _ [neighbour]).symm
    have kept : KeepsSigmas [] (left ++ capitalSigma :: right) [neighbour] :=
      lowerBetween_eq_lower_iff.mp same.symm
    have unchanged := kept left right rfl
    rw [List.reverse_nil, List.append_nil] at unchanged
    exact changed unchanged

/-- A sigma that is not settled makes a larger text in which the lower-case form is not found. -/
theorem exists_text_of_not_settles {text : Text} (unsettled : ¬ SettlesSigmas text) :
    ∃ larger, text <:+: larger ∧ ¬ lower text <:+: lower larger := by
  have witness : ∃ left right, text = left ++ capitalSigma :: right ∧
      sigmaSettled left.reverse right = false := by
    by_contra none
    refine unsettled fun left right split => ?_
    by_contra unset
    exact none ⟨left, right, split, Bool.eq_false_iff.mpr unset⟩
  obtain ⟨left, right, rfl, unset⟩ := witness
  rcases endsWord_of_not_settled unset with ⟨passed, changed⟩ | ⟨passed, changed⟩
  · rw [List.all_reverse] at passed
    exact ⟨_, List.infix_cons (List.infix_refl _), not_lower_infix_neighbour_cons passed changed⟩
  · exact ⟨_, (List.prefix_append _ _).isInfix, not_lower_infix_concat_neighbour passed changed⟩

/-- **Texts that are found after lower-casing.** The lower-case form of a text occurs in that of every
text in which the text occurs if and only if the text settles the forms of its sigmas. -/
theorem forall_occursIn_lower_iff {text : Text} :
    (∀ larger, occursIn text larger = true → occursIn (lower text) (lower larger) = true) ↔
      SettlesSigmas text := by
  constructor
  · intro found
    by_contra unsettled
    obtain ⟨larger, occurs, absent⟩ := exists_text_of_not_settles unsettled
    exact absent (occursIn_iff.mp (found larger (occursIn_iff.mpr occurs)))
  · intro settles larger occurs
    obtain ⟨before, after, split⟩ := occursIn_iff.mp occurs
    rw [← split, List.append_assoc]
    exact (settles.keepsSigmas before after).occursIn_lower

end ThoughtJournal.Text
