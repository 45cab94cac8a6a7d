import ThoughtJournal.Store.Basic
import ThoughtJournal.Text.Utf8

/-! # The relational store

Thoughts as rows of a table with a unique column of checksums, and a view that groups the rows by
category. Columns of text are compared by the bytes of their UTF-8 form. Before the schema is applied
there is neither table nor view, and every query fails.
-/

namespace ThoughtJournal

namespace Relational

/-- A row of the table of thoughts. -/
structure Row where
  entryDate : Text
  content : Text
  category : Text
  tags : List Text
  contextLine : Text
  checksum : Text
  tokenCount : Nat
deriving DecidableEq, Repr

def Row.ofThought (thought : Thought) : Row where
  entryDate := thought.date
  content := thought.content
  category := thought.category.name
  tags := thought.tags
  contextLine := thought.contextLine
  checksum := thought.checksum
  tokenCount := thought.tokenCount

/-- The order of columns of text: the order of their UTF-8 bytes. -/
def bytesBefore (left right : Text) : Bool := decide (Utf8.encode left < Utf8.encode right)

/-- The greatest of a list of texts by their bytes; there is none in the empty list. -/
def maximum (texts : List Text) : Option Text :=
  texts.foldl (fun greatest text =>
    match greatest with
    | none => some text
    | some other => some (if bytesBefore other text then text else other)) none

/-- A text put into a list of distinct texts that is ascending by bytes. -/
def insertGroup (text : Text) : List Text → List Text
  | [] => [text]
  | head :: rest =>
      if text == head then head :: rest
      else if bytesBefore text head then text :: head :: rest
      else head :: insertGroup text rest

/-- The distinct texts of a list, ascending by bytes. -/
def groups (texts : List Text) : List Text := texts.foldr insertGroup []

/-- The view of the categories: the rows grouped by category, with the number of rows and the
greatest date of each group, ordered by category. -/
def categoryView (rows : List Row) : List CategoryStats :=
  (groups (rows.map Row.category)).map fun category =>
    let members := rows.filter fun row => row.category == category
    ⟨category, members.length, (maximum (members.map Row.entryDate)).getD []⟩

end Relational

/-- A database: its table of thoughts, if the schema is applied. -/
structure Relational where
  table : Option (List Relational.Row)
deriving DecidableEq, Repr

namespace Relational

/-- A database without tables. -/
def blank : Relational := ⟨none⟩

/-- Creates the table and the view unless they exist. -/
def applySchema (database : Relational) : Relational := ⟨some (database.table.getD [])⟩

/-- A database with the schema and without rows. -/
def empty : Relational := blank.applySchema

def tableName : Text := "second_brain".toList

def viewName : Text := "second_brain_stats".toList

/-- A failure that the database reports under a code. -/
def failure (code : Nat) (words : Text) : Failure :=
  let cause := "(code: ".toList ++ Text.ofNat code ++ ") ".toList ++ words
  ⟨"error returned from database: ".toList ++ cause, [cause]⟩

/-- The failure of a query on a table or view that does not exist. -/
def noSuchTable (name : Text) : Failure := failure 1 ("no such table: ".toList ++ name)

/-- The failure of a change of a database that is open for reading only. -/
def readOnly : Failure := failure 8 "attempt to write a readonly database".toList

/-- What an insertion that failed was about. -/
def insertContext (thought : Thought) : Text := "inserting thought ".toList ++ thought.checksum

/-- The latest date of the table, and the epoch if it has no rows. -/
def latest (database : Relational) : Except Failure Text :=
  match database.table with
  | none => .error ((noSuchTable tableName).within "querying latest entry_date".toList)
  | some rows => .ok ((maximum (rows.map Row.entryDate)).getD epoch)

def count (database : Relational) : Except Failure Nat :=
  match database.table with
  | none => .error (noSuchTable tableName)
  | some rows => .ok rows.length

def stats (database : Relational) : Except Failure (List CategoryStats) :=
  match database.table with
  | none => .error ((noSuchTable viewName).within "querying second_brain_stats".toList)
  | some rows => .ok (categoryView rows)

/-- Adds a row unless its checksum conflicts with a row of the table. -/
def insert (database : Relational) (thought : Thought) :
    Except Failure InsertOutcome × Relational :=
  match database.table with
  | none => (.error ((noSuchTable tableName).within (insertContext thought)), database)
  | some rows =>
      if rows.any fun row => row.checksum == thought.checksum then (.ok .duplicate, database)
      else (.ok .inserted, ⟨some (rows ++ [Row.ofThought thought])⟩)

instance : ThoughtStore Relational := ⟨latest, count, stats, insert⟩

/-- Applying the schema again changes nothing. -/
@[simp] theorem applySchema_applySchema (database : Relational) :
    database.applySchema.applySchema = database.applySchema := rfl

/-- Applying the schema keeps the rows of the table. -/
theorem applySchema_of_table {rows : List Row} : applySchema ⟨some rows⟩ = ⟨some rows⟩ := rfl

end Relational

end ThoughtJournal
