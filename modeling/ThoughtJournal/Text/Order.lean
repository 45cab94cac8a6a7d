import ThoughtJournal.Text.Basic

/-! # The order of texts

Texts are compared character by character, and a text comes before its proper extensions. This is a
linear order (`Text.lt_trichotomy`), so a set of texts has exactly one ascending listing, which
`Text.ascendingSet` computes.
-/

namespace ThoughtJournal.Text

/-- A text differs from those before which it comes. -/
theorem ne_of_lt {first second : Text} (ordered : first < second) : first ≠ second := by
  rintro rfl
  exact List.lt_irrefl first ordered

/-- Two texts are equal or one comes before the other. -/
theorem lt_trichotomy (first second : Text) : first < second ∨ first = second ∨ second < first := by
  by_cases left : first < second
  · exact Or.inl left
  · by_cases right : second < first
    · exact Or.inr (Or.inr right)
    · exact Or.inr (Or.inl (List.le_antisymm right left))

/-- Texts of which neither comes before the other are equal. -/
theorem eq_of_not_lt {first second : Text} (notBefore : ¬ first < second)
    (notAfter : ¬ second < first) : first = second := by
  rcases lt_trichotomy first second with lower | equal | upper
  · exact absurd lower notBefore
  · exact equal
  · exact absurd upper notAfter

/-- A text that comes before another one comes before everything not before that one. -/
theorem lt_of_lt_of_not_lt {first second third : Text} (lower : first < second)
    (notBefore : ¬ third < second) : first < third := by
  rcases lt_trichotomy second third with below | equal | above
  · exact List.lt_trans lower below
  · exact equal ▸ lower
  · exact absurd above notBefore

/-- A text that is not after another one comes before everything after that one. -/
theorem lt_of_not_lt_of_lt {first second third : Text} (notAfter : ¬ second < first)
    (lower : second < third) : first < third := by
  rcases lt_trichotomy first second with below | equal | above
  · exact List.lt_trans below lower
  · exact equal ▸ lower
  · exact absurd above notAfter

/-- The comparison the other way round decides the order with equality. -/
theorem not_before_iff (first second : Text) :
    (!before first second) = true ↔ ¬ first < second := by
  rw [Bool.not_eq_true', ← Bool.not_eq_true, before_iff]

/-- The order with equality is transitive. -/
theorem not_before_trans {first second third : Text} (left : (!before second first) = true)
    (right : (!before third second) = true) : (!before third first) = true := by
  rw [not_before_iff] at left right ⊢
  exact fun lower => left (lt_of_not_lt_of_lt right lower)

/-- Of two texts one does not come before the other. -/
theorem not_before_total (first second : Text) :
    ((!before second first) || (!before first second)) = true := by
  rw [Bool.or_eq_true, not_before_iff, not_before_iff]
  by_cases lower : second < first
  · exact Or.inr (List.lt_asymm lower)
  · exact Or.inl lower

/-- A text is put into an ascending list of distinct texts, unless it is there already. -/
def insertDistinct (text : Text) : List Text → List Text
  | [] => [text]
  | head :: rest =>
      if before text head then text :: head :: rest
      else if before head text then head :: insertDistinct text rest
      else head :: rest

/-- The distinct members of a list in ascending order. -/
def ascendingSet (texts : List Text) : List Text := texts.foldr insertDistinct []

@[simp] theorem ascendingSet_nil : ascendingSet [] = [] := rfl

@[simp] theorem ascendingSet_cons (text : Text) (rest : List Text) :
    ascendingSet (text :: rest) = insertDistinct text (ascendingSet rest) := rfl

/-- The members after a text was put in are that text and the members before. -/
@[simp] theorem mem_insertDistinct (text new : Text) (texts : List Text) :
    text ∈ insertDistinct new texts ↔ text = new ∨ text ∈ texts := by
  induction texts with
  | nil => simp [insertDistinct]
  | cons head rest ih =>
      unfold insertDistinct
      split
      · simp
      · rename_i notBefore
        split
        · simp [ih, or_left_comm]
        · rename_i notAfter
          have same : new = head := by
            rcases lt_trichotomy new head with lower | equal | upper
            · exact absurd ((before_iff _ _).mpr lower) notBefore
            · exact equal
            · exact absurd ((before_iff _ _).mpr upper) notAfter
          simp [same]

/-- Putting a text into an ascending list keeps it ascending. -/
theorem insertDistinct_ascending (new : Text) {texts : List Text}
    (ascending : texts.Pairwise (· < ·)) : (insertDistinct new texts).Pairwise (· < ·) := by
  induction texts with
  | nil => simp [insertDistinct]
  | cons head rest ih =>
      obtain ⟨least, tail⟩ := List.pairwise_cons.mp ascending
      unfold insertDistinct
      split
      · rename_i first
        have first := (before_iff _ _).mp first
        refine List.pairwise_cons.mpr ⟨fun other member => ?_, ascending⟩
        rcases List.mem_cons.mp member with same | member
        · exact same ▸ first
        · exact List.lt_trans first (least other member)
      · split
        · rename_i second
          refine List.pairwise_cons.mpr ⟨fun other member => ?_, ih tail⟩
          rcases (mem_insertDistinct other new rest).mp member with same | member
          · exact same ▸ (before_iff _ _).mp second
          · exact least other member
        · exact ascending

/-- The ascending listing has the members of the list. -/
@[simp] theorem mem_ascendingSet (text : Text) (texts : List Text) :
    text ∈ ascendingSet texts ↔ text ∈ texts := by
  induction texts with
  | nil => simp
  | cons head rest ih => simp [ih]

/-- The listing is ascending, so no text occurs twice. -/
theorem ascendingSet_ascending (texts : List Text) : (ascendingSet texts).Pairwise (· < ·) := by
  induction texts with
  | nil => simp
  | cons head rest ih => exact insertDistinct_ascending head ih

end ThoughtJournal.Text
