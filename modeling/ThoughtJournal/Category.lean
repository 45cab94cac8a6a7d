import ThoughtJournal.Text.Basic

/-! # Categories

Every thought belongs to one of the four categories of the PARA method.
-/

namespace ThoughtJournal

/-- What a thought is kept for. -/
inductive Category where
  | project
  | area
  | resource
  | archive
deriving DecidableEq, Repr, Inhabited

namespace Category

/-- The category of a thought without a category of its own. -/
def fallback : Category := .resource

/-- The name under which a category is stored and printed. -/
def name : Category → Text
  | .project => ['p', 'r', 'o', 'j', 'e', 'c', 't']
  | .area => ['a', 'r', 'e', 'a']
  | .resource => ['r', 'e', 's', 'o', 'u', 'r', 'c', 'e']
  | .archive => ['a', 'r', 'c', 'h', 'i', 'v', 'e']

/-- All categories in ascending order of their names. -/
def all : List Category := [.archive, .area, .project, .resource]

def ofName? (text : Text) : Option Category := all.find? fun category => category.name == text

/-- Every category is listed. -/
theorem mem_all (category : Category) : category ∈ all := by
  cases category <;> decide

/-- The listing of all categories is ascending by name. -/
theorem all_ascending : (all.map name).Pairwise (· < ·) := by
  decide

/-- Different categories have different names. -/
theorem name_injective {left right : Category} (same : left.name = right.name) : left = right := by
  cases left <;> cases right <;> simp_all [name]

/-- A category is found under its name. -/
@[simp] theorem ofName?_name (category : Category) : ofName? category.name = some category := by
  cases category <;> rfl

/-- Only the name of a category is read as that category. -/
theorem ofName?_eq_some_iff {text : Text} {category : Category} :
    ofName? text = some category ↔ text = category.name := by
  constructor
  · intro found
    have matching := List.find?_some found
    simpa using (beq_iff_eq.mp matching).symm
  · rintro rfl
    exact ofName?_name category

/-- A text that names no category. -/
structure Unknown where
  text : Text
deriving DecidableEq, Repr

def Unknown.message (unknown : Unknown) : Text :=
  "unknown PARA category: '".toList ++ unknown.text ++ ['\'']

/-- The category with a given name, or the complaint that there is none. -/
def read (text : Text) : Except Unknown Category :=
  match ofName? text with
  | some category => .ok category
  | none => .error ⟨text⟩

/-- The name of a category is read as that category. -/
@[simp] theorem read_name (category : Category) : read category.name = .ok category := by
  simp [read]

end Category

end ThoughtJournal
