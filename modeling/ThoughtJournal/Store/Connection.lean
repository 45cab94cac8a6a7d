import ThoughtJournal.Files

/-! # Connections

An open database with its schema. It lies at a place, where it is kept, or lasts only as long as the
connection; and it may be open for reading only, when every insertion fails.
-/

namespace ThoughtJournal

/-- An open database. -/
structure Connection where
  database : Relational
  writable : Bool
  /-- Where the database is kept. -/
  place : Option Place
deriving DecidableEq, Repr

namespace Connection

/-- Hands a thought to the database unless it is open for reading only. -/
def insert (connection : Connection) (thought : Thought) :
    Except Failure InsertOutcome × Connection :=
  if connection.writable then
    let result := connection.database.insert thought
    (result.1, { connection with database := result.2 })
  else (.error (Relational.readOnly.within (Relational.insertContext thought)), connection)

instance : ThoughtStore Connection where
  latest connection := connection.database.latest
  count connection := connection.database.count
  stats connection := connection.database.stats
  insert := insert

/-- The files with the database of a connection at its place. -/
def save (connection : Connection) (files : Files) : Files :=
  match connection.place with
  | some place =>
      if connection.writable then files.put place (.database connection.database) else files
  | none => files

/-- Nothing is written through a connection for reading only. -/
theorem save_of_not_writable {connection : Connection} (files : Files)
    (closed : connection.writable = false) : connection.save files = files := by
  simp only [save, closed]
  split <;> rfl

end Connection

end ThoughtJournal
