import Mathlib.Data.List.Nodup
import ThoughtJournal.Files

/-! # What lies at the places

A dictionary is decided by the values under its keys (`Dictionary.eq_of_get?`), so of what is put at
one place the last remains, and what is put at different places can be put in either order
(`Files.put_comm`). A file that is put where no directory is makes no directory and takes none away
(`Files.node?_put_eq_directory_iff`), and so a path whose directories are there still leads through
them (`Files.Leads.put`).
-/

namespace ThoughtJournal

namespace Dictionary

variable {α : Type}

/-- The values under the keys decide a dictionary. -/
theorem eq_of_get? {left right : Dictionary α} (same : ∀ key, left.get? key = right.get? key) :
    left = right := by
  have ascending (dictionary : Dictionary α) :
      dictionary.entries.Pairwise fun first second => first.1 < second.1 :=
    List.pairwise_map.mp dictionary.ascending
  have distinct (dictionary : Dictionary α) : dictionary.entries.Nodup :=
    (ascending dictionary).imp fun lower equal => Text.ne_of_lt lower (congrArg Prod.fst equal)
  have members : ∀ entry, entry ∈ left.entries ↔ entry ∈ right.entries := by
    rintro ⟨key, value⟩
    rw [mem_entries_iff, mem_entries_iff, same]
  apply eq_of_entries
  apply List.Perm.eq_of_pairwise _ (ascending left) (ascending right)
  · exact (List.perm_ext_iff_of_nodup (distinct left) (distinct right)).mpr members
  · intro first second _ _ lower upper
    exact absurd upper (List.lt_asymm lower)

/-- Of two values put in under one key the last remains. -/
theorem insert_insert_self (key : Text) (first second : α) (dictionary : Dictionary α) :
    (dictionary.insert key first).insert key second = dictionary.insert key second := by
  apply eq_of_get?
  intro other
  by_cases same : other = key
  · rw [same, get?_insert_self, get?_insert_self]
  · rw [get?_insert_of_ne _ same, get?_insert_of_ne _ same, get?_insert_of_ne _ same]

/-- Values under different keys can be put in in either order. -/
theorem insert_comm {first second : Text} (distinct : first ≠ second) (left right : α)
    (dictionary : Dictionary α) :
    (dictionary.insert first left).insert second right =
      (dictionary.insert second right).insert first left := by
  apply eq_of_get?
  intro key
  by_cases isFirst : key = first
  · rw [isFirst, get?_insert_of_ne _ distinct, get?_insert_self, get?_insert_self]
  · by_cases isSecond : key = second
    · rw [isSecond, get?_insert_self, get?_insert_of_ne _ distinct.symm, get?_insert_self]
    · rw [get?_insert_of_ne _ isSecond, get?_insert_of_ne _ isFirst, get?_insert_of_ne _ isFirst,
        get?_insert_of_ne _ isSecond]

end Dictionary

namespace Files

variable {files : Files} {place other : Place} {node : Node}

/-! ## Putting -/

/-- Of two nodes put at one place the last remains, however the place is spelled. -/
theorem put_put_of_key_eq (same : Path.key other = Path.key place) (files : Files)
    (first second : Node) : (files.put place first).put other second = files.put other second := by
  unfold put
  rw [same, Dictionary.insert_insert_self]

@[simp] theorem put_put_self (files : Files) (place : Place) (first second : Node) :
    (files.put place first).put place second = files.put place second :=
  put_put_of_key_eq rfl files first second

/-- What is put at different places can be put in either order. -/
theorem put_comm (distinct : Path.key place ≠ Path.key other) (files : Files)
    (first second : Node) :
    (files.put place first).put other second = (files.put other second).put place first := by
  unfold put
  rw [Dictionary.insert_comm distinct]

/-- What lies at other places stays when something is put at a place. -/
theorem node?_put_of_key_ne (distinct : Path.key other ≠ Path.key place) (files : Files)
    (node : Node) : (files.put place node).node? other = files.node? other := by
  simp only [node?, put, Dictionary.get?_insert_of_ne node distinct]

theorem isBase_of_not_directory (free : files.node? place ≠ some .directory) :
    Path.isBase place = false := by
  rw [← Bool.not_eq_true]
  exact fun base => free (node?_of_isBase files base)

/-- Putting a file where no directory is changes nothing about directories. -/
theorem node?_put_eq_directory_iff (free : files.node? place ≠ some .directory)
    (file : node ≠ .directory) :
    (files.put place node).node? other = some .directory ↔
      files.node? other = some .directory := by
  by_cases same : Path.key other = Path.key place
  · cases base : Path.isBase other with
    | true => rw [node?_of_isBase _ base, node?_of_isBase _ base]
    | false =>
        have notBase := isBase_of_not_directory free
        have put : (files.put place node).node? other = some node := by
          simp only [node?, Files.put, base, same, Dictionary.get?_insert_self,
            Bool.false_eq_true, ↓reduceIte]
        have alike : files.node? other = files.node? place := by
          simp only [node?, base, notBase, same]
        rw [put, alike]
        exact ⟨fun made => absurd (Option.some.inj made) file, fun there => absurd there free⟩
  · rw [node?_put_of_key_ne same]

/-! ## Making directories -/

/-- Parts lead through directories from a place, so that none of them has to be made. -/
def Leads (files : Files) (place : Place) (parts : List Text) : Prop :=
  files.makeFrom place parts = (.ok (), files)

/-- Parts lead through directories if and only if the first is not too long and leads to one, and
the others lead on from there. -/
theorem leads_cons_iff {part : Text} {rest : List Text} :
    files.Leads place (part :: rest) ↔ Path.isLongName part = false ∧
      files.node? (Path.step place part) = some .directory ∧
      files.Leads (Path.step place part) rest := by
  constructor
  · intro leads
    cases long : Path.isLongName part with
    | true =>
        simp only [Leads, makeFrom, long, ↓reduceIte, Prod.mk.injEq, reduceCtorEq, false_and]
          at leads
    | false =>
        -- Had a directory been made it would still be there, and the files would not be the same.
        cases lies : files.node? (Path.step place part) with
        | none =>
            simp only [Leads, makeFrom, long, lies, Bool.false_eq_true, ↓reduceIte] at leads
            have made := node?_makeFrom
              (node?_put_self files .directory (isBase_of_vacant lies)) (Path.step place part) rest
            rw [leads, lies] at made
            cases made
        | some node =>
            simp only [Leads, makeFrom, long, lies, Bool.false_eq_true, ↓reduceIte] at leads
            cases node with
            | directory => exact ⟨rfl, rfl, leads⟩
            | bytes contents => cases leads
            | zeros count => cases leads
            | database database => cases leads
  · rintro ⟨short, directory, leads⟩
    simp only [Leads, makeFrom, short, directory, Bool.false_eq_true, ↓reduceIte]
    exact leads

/-- A file where no directory is does not stand in the way. -/
theorem Leads.put {parts : List Text} (leads : files.Leads other parts)
    (free : files.node? place ≠ some .directory) (file : node ≠ .directory) :
    (files.put place node).Leads other parts := by
  induction parts generalizing other with
  | nil => rfl
  | cons part rest ih =>
      obtain ⟨short, directory, onward⟩ := leads_cons_iff.mp leads
      exact leads_cons_iff.mpr
        ⟨short, (node?_put_eq_directory_iff free file).mpr directory, ih onward⟩

/-- Directories that are there are not made. -/
theorem makeParent_makeParent (files : Files) (path : Text) :
    (files.makeParent path).2.makeParent path = files.makeParent path :=
  makeDirectory_makeDirectory files _

theorem node?_makeParent {found : Node} (known : files.node? other = some found) (path : Text) :
    (files.makeParent path).2.node? other = some found := by
  unfold makeParent makeDirectory
  split
  · exact known
  · split
    · exact known
    · exact node?_makeFrom known [] _

/-- The directory of a path can still be made, without a change, after a file was put where no
directory is. -/
theorem makeParent_put {path : Text} (ready : files.makeParent path = (.ok (), files))
    (free : files.node? place ≠ some .directory) (file : node ≠ .directory) :
    (files.put place node).makeParent path = (.ok (), files.put place node) := by
  simp only [makeParent, makeDirectory] at ready ⊢
  split at ready
  · cases ready
  · rename_i noNul
    rw [if_neg noNul]
    split at ready
    · cases ready
    · rename_i short
      rw [if_neg short]
      exact Leads.put ready free file

/-! ## Writing -/

/-- What is written under a path depends on the files only through the directory made for it. -/
theorem write_congr {files other : Files} {path : Text}
    (made : files.makeParent path = other.makeParent path) (node : Node) :
    files.write path node = other.write path node := by
  unfold write
  rw [made]

/-- Nothing is written over a directory. -/
theorem write_of_directory {path : Text} (ready : files.makeParent path = (.ok (), files))
    (directory : files.node? (Path.place path) = some .directory) (node : Node) :
    files.write path node = files := by
  simp only [write, ready, directory]

/-- Where the directory is there, writing puts the file at its place. -/
theorem write_of_free {path : Text} (ready : files.makeParent path = (.ok (), files))
    (free : files.node? (Path.place path) ≠ some .directory) (node : Node) :
    files.write path node = files.put (Path.place path) node := by
  simp only [write, ready]

end Files

end ThoughtJournal
