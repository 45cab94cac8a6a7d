import ThoughtJournal.Text.Order

/-! # Dictionaries

A dictionary holds at most one value for every key and lists its entries in ascending order of the
keys. A value put in under a key that is there already takes the place of the older one.
-/

namespace ThoughtJournal

/-- Values under texts, in ascending order of the keys. -/
structure Dictionary (α : Type) where
  entries : List (Text × α)
  ascending : (entries.map Prod.fst).Pairwise (· < ·)

namespace Dictionary

variable {α β : Type}

/-- The entries decide a dictionary. -/
theorem eq_of_entries {left right : Dictionary α} (same : left.entries = right.entries) :
    left = right := by
  cases left
  cases right
  cases same
  rfl

instance [DecidableEq α] : DecidableEq (Dictionary α) := fun left right =>
  if same : left.entries = right.entries then isTrue (eq_of_entries same)
  else isFalse fun equal => same (equal ▸ rfl)

def empty : Dictionary α := ⟨[], List.Pairwise.nil⟩

instance : Inhabited (Dictionary α) := ⟨empty⟩

/-- The keys in ascending order. -/
def keys (dictionary : Dictionary α) : List Text := dictionary.entries.map Prod.fst

def size (dictionary : Dictionary α) : Nat := dictionary.entries.length

def get? (dictionary : Dictionary α) (key : Text) : Option α := dictionary.entries.lookup key

/-- An ascending list of entries with one more. -/
def insertEntry (key : Text) (value : α) : List (Text × α) → List (Text × α)
  | [] => [(key, value)]
  | entry :: rest =>
      if Text.before key entry.1 then (key, value) :: entry :: rest
      else if Text.before entry.1 key then entry :: insertEntry key value rest
      else (key, value) :: rest

/-- The keys after an entry was put in are those before with its key among them. -/
theorem map_fst_insertEntry (key : Text) (value : α) (entries : List (Text × α)) :
    (insertEntry key value entries).map Prod.fst =
      Text.insertDistinct key (entries.map Prod.fst) := by
  induction entries with
  | nil => rfl
  | cons entry rest ih =>
      simp only [insertEntry, List.map_cons, Text.insertDistinct]
      split
      · rfl
      · rename_i notBefore
        split
        · simp [ih]
        · rename_i notAfter
          rcases Text.lt_trichotomy key entry.1 with lower | equal | upper
          · exact absurd ((Text.before_iff _ _).mpr lower) notBefore
          · simp [equal]
          · exact absurd ((Text.before_iff _ _).mpr upper) notAfter

/-- A dictionary with a value under a key. -/
def insert (key : Text) (value : α) (dictionary : Dictionary α) : Dictionary α where
  entries := insertEntry key value dictionary.entries
  ascending := by
    rw [map_fst_insertEntry]
    exact Text.insertDistinct_ascending key dictionary.ascending

/-- The dictionary of a list of entries, in which a later entry replaces an earlier one. -/
def ofList (entries : List (Text × α)) : Dictionary α :=
  entries.foldl (fun dictionary entry => dictionary.insert entry.1 entry.2) empty

def erase (dictionary : Dictionary α) (key : Text) : Dictionary α where
  entries := dictionary.entries.filter fun entry => entry.1 != key
  ascending := dictionary.ascending.sublist (List.filter_sublist.map _)

def map (f : Text → α → β) (dictionary : Dictionary α) : Dictionary β where
  entries := dictionary.entries.map fun entry => (entry.1, f entry.1 entry.2)
  ascending := by
    simpa only [List.map_map, Function.comp_def] using dictionary.ascending

@[simp] theorem keys_insert (key : Text) (value : α) (dictionary : Dictionary α) :
    (dictionary.insert key value).keys = Text.insertDistinct key dictionary.keys :=
  map_fst_insertEntry key value dictionary.entries

@[simp] theorem get?_empty (key : Text) : (empty : Dictionary α).get? key = none := rfl

theorem lookup_insertEntry_self (key : Text) (value : α) (entries : List (Text × α)) :
    (insertEntry key value entries).lookup key = some value := by
  induction entries with
  | nil => exact List.lookup_cons_self
  | cons entry rest ih =>
      obtain ⟨other, stored⟩ := entry
      simp only [insertEntry]
      split
      · exact List.lookup_cons_self
      · split
        · rename_i after
          have distinct : (key == other) = false := by
            simp only [beq_eq_false_iff_ne, ne_eq]
            intro same
            have smaller := (Text.before_iff _ _).mp after
            rw [same] at smaller
            exact List.lt_irrefl other smaller
          rw [List.lookup_cons, distinct]
          exact ih
        · exact List.lookup_cons_self

/-- A key that was put in has the value that was put in with it. -/
@[simp] theorem get?_insert_self (key : Text) (value : α) (dictionary : Dictionary α) :
    (dictionary.insert key value).get? key = some value :=
  lookup_insertEntry_self key value dictionary.entries

theorem lookup_insertEntry_of_ne {key other : Text} (value : α) (distinct : other ≠ key)
    (entries : List (Text × α)) :
    (insertEntry key value entries).lookup other = entries.lookup other := by
  have apart : (other == key) = false := beq_eq_false_iff_ne.mpr distinct
  induction entries with
  | nil => simp [insertEntry, List.lookup_cons, apart]
  | cons entry rest ih =>
      obtain ⟨first, stored⟩ := entry
      simp only [insertEntry]
      split
      · rw [List.lookup_cons, apart]
      · split
        · simp only [List.lookup_cons, ih]
        · rename_i notBefore notAfter
          have same : key = first := by
            rcases Text.lt_trichotomy key first with lower | equal | upper
            · exact absurd ((Text.before_iff _ _).mpr lower) notBefore
            · exact equal
            · exact absurd ((Text.before_iff _ _).mpr upper) notAfter
          rw [List.lookup_cons, List.lookup_cons, ← same, apart]

/-- The value under another key stays when a value is put in. -/
theorem get?_insert_of_ne {key other : Text} (value : α) (distinct : other ≠ key)
    (dictionary : Dictionary α) : (dictionary.insert key value).get? other = dictionary.get? other :=
  lookup_insertEntry_of_ne value distinct dictionary.entries

/-- Every entry of a list with ascending keys is found under its key. -/
theorem lookup_of_mem {key : Text} {value : α} {entries : List (Text × α)}
    (ascending : (entries.map Prod.fst).Pairwise (· < ·)) (member : (key, value) ∈ entries) :
    entries.lookup key = some value := by
  induction entries with
  | nil => exact absurd member List.not_mem_nil
  | cons entry rest ih =>
      rw [List.map_cons, List.pairwise_cons] at ascending
      rcases List.mem_cons.mp member with rfl | later
      · exact List.lookup_cons_self
      · have above : entry.1 < key := ascending.1 key (List.mem_map_of_mem later)
        have apart : (key == entry.1) = false := beq_eq_false_iff_ne.mpr (Text.ne_of_lt above).symm
        rw [List.lookup_cons, apart]
        exact ih ascending.2 later

/-- An entry is found under its key. -/
theorem get?_of_mem {key : Text} {value : α} {dictionary : Dictionary α}
    (member : (key, value) ∈ dictionary.entries) : dictionary.get? key = some value :=
  lookup_of_mem dictionary.ascending member

/-- The entries are the keys with what is found under them. -/
theorem mem_entries_iff {dictionary : Dictionary α} {key : Text} {value : α} :
    (key, value) ∈ dictionary.entries ↔ dictionary.get? key = some value := by
  refine ⟨get?_of_mem, fun found => ?_⟩
  obtain ⟨before, after, split, _⟩ := List.lookup_eq_some_iff.mp found
  rw [split]
  exact List.mem_append_right before List.mem_cons_self

/-- Of the entries put in one after the other the last one under a key counts, and before them what
was there at the start. -/
theorem get?_foldl_insert (entries : List (Text × α)) (start : Dictionary α) (key : Text) :
    (entries.foldl (fun dictionary entry => dictionary.insert entry.1 entry.2) start).get? key =
      (entries.reverse.lookup key).or (start.get? key) := by
  induction entries generalizing start with
  | nil => rfl
  | cons entry rest ih =>
      rw [List.foldl_cons, ih, List.reverse_cons, List.lookup_append, Option.or_assoc]
      congr 1
      by_cases same : key = entry.1
      · rw [same, get?_insert_self, List.lookup_cons_self]
        rfl
      · have apart : (key == entry.1) = false := beq_eq_false_iff_ne.mpr same
        rw [get?_insert_of_ne _ same, List.lookup_cons, apart]
        rfl

/-- In the dictionary of a list the last entry with a key is found under it. -/
theorem get?_ofList (entries : List (Text × α)) (key : Text) :
    (ofList entries).get? key = entries.reverse.lookup key := by
  rw [ofList, get?_foldl_insert, get?_empty, Option.or_none]

/-- If no key occurs twice, every entry of a list is found in its dictionary. -/
theorem get?_ofList_of_mem {entries : List (Text × α)} (distinct : (entries.map Prod.fst).Nodup)
    {key : Text} {value : α} (member : (key, value) ∈ entries) :
    (ofList entries).get? key = some value := by
  rw [get?_ofList, List.lookup_eq_some_iff]
  obtain ⟨before, after, split⟩ := List.append_of_mem (List.mem_reverse.mpr member)
  refine ⟨before, after, split, fun other earlier => ?_⟩
  have reversed : ((before ++ (key, value) :: after).map Prod.fst).Nodup := by
    rw [← split, List.map_reverse]
    exact List.pairwise_reverse.mpr (distinct.imp Ne.symm)
  rw [List.map_append, List.nodup_append] at reversed
  exact bne_iff_ne.mpr
    (reversed.2.2 other.1 (List.mem_map_of_mem earlier) key List.mem_cons_self).symm

end Dictionary

end ThoughtJournal
