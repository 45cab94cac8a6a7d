import ThoughtJournal.Text.Order

/-! # TOML documents

A document is a tree of tables. It is assembled from statements: assignments under a dotted key, and
headings that open a table or append one to an array of tables. A table can be opened by a heading
once; until then it may exist because a heading names a table inside it. A table made by a dotted key
grows by dotted keys only, and an inline table does not grow at all.
-/

namespace ThoughtJournal.Toml

/-- How a table came to be. -/
inductive Origin where
  /-- Opened by a heading, or an element of an array of tables. -/
  | heading
  /-- Made because a heading names a table inside it. -/
  | enclosing
  /-- Made by a dotted key. -/
  | dotted
  /-- Written as an inline table. -/
  | inlined
deriving DecidableEq, Repr

/-- A value of a document. Only what a configuration can hold is kept: the contents of floating-point
numbers and of dates are not. -/
inductive Value where
  | string (text : Text)
  | integer (value : Int)
  | float
  | boolean (value : Bool)
  | dateTime
  | array (items : List Value)
  | table (origin : Origin) (entries : List (Text × Value))
  | tables (elements : List (List (Text × Value)))
deriving Inhabited

/-- The entries of a table. The keys are distinct. -/
abbrev Entries := List (Text × Value)

/-- A dotted key: the keys of the tables on the way and the key of the entry. -/
structure Key where
  parents : List Text
  last : Text
deriving DecidableEq, Repr

/-- A statement of a document. -/
inductive Statement where
  | assign (key : Key) (value : Value)
  | openTable (key : Key)
  | appendTable (key : Key)

namespace Entries

def get? (entries : Entries) (key : Text) : Option Value := entries.lookup key

/-- The entries with a value under a key: in the place of the older one if there is any, at the end
otherwise. -/
def set (key : Text) (value : Value) : Entries → Entries
  | [] => [(key, value)]
  | entry :: rest =>
      if entry.1 == key then (key, value) :: rest else entry :: set key value rest

/-- Applies a change to the last of a list of tables. -/
def changeLast (change : Entries → Option Entries) : List Entries → Option (List Entries)
  | [] => none
  | [element] => (change element).map fun changed => [changed]
  | element :: rest => (changeLast change rest).map (element :: ·)

/-- Applies a change to the table that a heading finds at the end of a path: the change is given how
that table came to be and its entries. Missing tables on the way are made. -/
def changeAt (change : Origin → Entries → Option Entries) :
    List Text → Origin → Entries → Option Entries
  | [], origin, entries => change origin entries
  | key :: path, _, entries =>
      match get? entries key with
      | none =>
          (changeAt change path .enclosing []).map fun changed =>
            set key (.table .enclosing changed) entries
      | some (.table .inlined _) => none
      | some (.table origin inner) =>
          (changeAt change path origin inner).map fun changed =>
            set key (.table origin changed) entries
      | some (.tables elements) =>
          (changeLast (changeAt change path .heading) elements).map fun changed =>
            set key (.tables changed) entries
      | some _ => none

/-- Assigns a value under the last key of a dotted key. The table must have been made by a dotted key
exactly if the key has parents, and the entry must be new. -/
def assignLast (hasParents : Bool) (last : Text) (value : Value) (origin : Origin)
    (entries : Entries) : Option Entries :=
  if (origin == .dotted) != hasParents then none
  else if (get? entries last).isSome then none
  else some (set last value entries)

/-- Assigns a value under a dotted key. Tables that a heading opened and inline tables are closed to
dotted keys; missing tables on the way are made. -/
def assignFrom (hasParents : Bool) (last : Text) (value : Value) :
    List Text → Origin → Entries → Option Entries
  | [], origin, entries => assignLast hasParents last value origin entries
  | key :: path, _, entries =>
      match get? entries key with
      | none =>
          (assignFrom hasParents last value path .dotted []).map fun changed =>
            set key (.table .dotted changed) entries
      | some (.table .heading _) => none
      | some (.table .inlined _) => none
      | some (.table origin inner) =>
          (assignFrom hasParents last value path origin inner).map fun changed =>
            set key (.table origin changed) entries
      | some (.tables elements) =>
          (changeLast (assignFrom hasParents last value path .heading) elements).map fun changed =>
            set key (.tables changed) entries
      | some _ => none

/-- Assigns a value under a dotted key of a table that is being written. -/
def assign (key : Key) (value : Value) (entries : Entries) : Option Entries :=
  assignFrom (!key.parents.isEmpty) key.last value key.parents .heading entries

/-- Opens a table in the table around it. -/
def openLast (last : Text) (entries : Entries) : Option Entries :=
  match get? entries last with
  | none => some (set last (.table .heading []) entries)
  | some (.table .enclosing inner) => some (set last (.table .heading inner) entries)
  | some _ => none

/-- Appends an empty table to an array of tables in the table around it. -/
def appendLast (last : Text) (entries : Entries) : Option Entries :=
  match get? entries last with
  | none => some (set last (.tables [[]]) entries)
  | some (.tables elements) => some (set last (.tables (elements ++ [[]])) entries)
  | some _ => none

/-- The entries after all assignments, made one after the other. -/
def ofAssignments (assignments : List (Key × Value)) : Option Entries :=
  assignments.foldlM (fun entries assignment => assign assignment.1 assignment.2 entries) []

end Entries

/-- A document under construction: the tables so far and the path of the table that is being
written. -/
structure Draft where
  root : Entries
  current : List Text

namespace Draft

def start : Draft := ⟨[], []⟩

/-- The draft after one more statement, if the statement is allowed. -/
def apply (draft : Draft) : Statement → Option Draft
  | .assign key value =>
      (Entries.changeAt (fun _ entries => Entries.assign key value entries) draft.current .heading
        draft.root).map fun root => { draft with root }
  | .openTable key =>
      (Entries.changeAt (fun _ entries => Entries.openLast key.last entries) key.parents .heading
        draft.root).map fun root => ⟨root, key.parents ++ [key.last]⟩
  | .appendTable key =>
      (Entries.changeAt (fun _ entries => Entries.appendLast key.last entries) key.parents .heading
        draft.root).map fun root => ⟨root, key.parents ++ [key.last]⟩

end Draft

/-- The document of a list of statements, if each of them is allowed. -/
def ofStatements (statements : List Statement) : Option Entries :=
  (statements.foldlM Draft.apply Draft.start).map Draft.root

end ThoughtJournal.Toml
