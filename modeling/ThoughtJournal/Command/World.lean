import ThoughtJournal.Config.Basic
import ThoughtJournal.Store.Location
import ThoughtJournal.Tracker.Program
import ThoughtJournal.Tracker.Rest

/-! # The world of a command

What a command finds around it, which it cannot change, and the files, databases among them, which it
can.
-/

namespace ThoughtJournal

/-- What a command finds around it. -/
structure Surroundings where
  /-- The values of the environment variables. -/
  environment : Dictionary Text
  /-- What the program under a path does with its arguments, given the files. -/
  program : (files : Files) → (path : Text) → (arguments : List Text) → Tracker.Execution
  network : Tracker.Network
  /-- The date of today. -/
  today : Text
  /-- The number of bytes of the file that holds a database. How its rows are laid out is not known
  here; six pages are taken by the schema and the first few rows. -/
  databaseSize : Relational → Nat := fun _ => 6 * 4096

/-- The surroundings of a command and the files. -/
structure World where
  surroundings : Surroundings
  files : Files

namespace World

/-- Makes the directory of the database that a configuration names, opens the database and creates its
schema; or tells why that is not possible. -/
def connect (world : World) (config : Config) : Except Failure Connection × World :=
  let made := world.files.makeParent config.database.path
  let stopped (failure : Failure) : Except Failure Connection × World :=
    (.error failure, { world with files := made.2 })
  match made.1, Location.parse config.database.path with
  | .error fault, _ => stopped (Failure.of fault.message)
  | .ok _, .error fault => stopped fault.failure
  | .ok _, .ok location =>
      let opened := location.connect made.2
      (opened.1.mapError Location.Fault.failure, { world with files := opened.2 })

/-- The world in which the database of a connection is kept. -/
def save (world : World) (connection : Connection) : World :=
  { world with files := connection.save world.files }

/-- The world with a file of so many bytes under the path of the database in a configuration. -/
def resize (world : World) (config : Config) (size : Nat) : World :=
  { world with files := world.files.write config.database.path (.zeros size) }

/-- Opening the database leaves the surroundings as they are. -/
@[simp] theorem surroundings_connect (world : World) (config : Config) :
    (world.connect config).2.surroundings = world.surroundings := by
  simp only [connect]
  split <;> rfl

end World

end ThoughtJournal
