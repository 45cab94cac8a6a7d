import ThoughtJournal.Command.World
import ThoughtJournal.Proofs.Files.Places

/-! # Opening a database again

What comes of opening a file depends on whether one can be at its place and on what lies there
(`Location.opening`). What opening leaves behind stays as it is when the database is opened again,
with the same outcome (`World.connect_connect`), and rows that are stored stay where they are
(`World.node?_connect`). A file that is put under the path of the database afterwards takes the place
of what opening left, or it could as well have been put there before (`World.resize_connect`).
-/

namespace ThoughtJournal

namespace Location

variable {location : Location} {place other : Place} {files : Files} {found : Option Node}
  {node : Node} {reachable : Bool} {rows : List Relational.Row} {connection : Connection}

/-! ## The file at a place -/

/-- What comes of opening a file: the outcome, and what is put in its place. -/
structure Opening where
  outcome : Except Fault Connection
  left : Option Node

def Opening.refused (fault : Fault) : Opening := ⟨.error fault, none⟩

/-- There is an empty file now, but no schema can be created in it. -/
def Opening.emptied : Opening := ⟨.error .readOnly, some (.bytes [])⟩

/-- The files after something was left at a place. -/
def Opening.put (opening : Opening) (place : Place) (files : Files) : Files :=
  match opening.left with
  | none => files
  | some node => files.put place node

/-- The database is open, and it is put back with its schema where that is allowed. -/
def accepting (location : Location) (place : Place) (database : Relational) : Opening where
  outcome := .ok (location.connectionTo place database)
  left :=
    if location.readOnly || location.immutable then none
    else some (.database database.applySchema)

/-- An empty file becomes a database, and any other file that is none is refused. -/
def replacing (location : Location) (place : Place) (empty : Bool) : Opening :=
  if !empty then .refused .notDatabase
  else if location.readOnly || location.immutable then .refused .readOnly
  else location.accepting place Relational.blank

/-- What comes of opening the file at a place where `found` lies. -/
def opening (location : Location) (place : Place) (reachable : Bool) (found : Option Node) :
    Opening :=
  if reachable then
    match found with
    | none =>
        if location.readOnly then .refused .unopenable
        else if location.immutable then .emptied
        else location.accepting place Relational.blank
    | some .directory => .refused .unopenable
    | some (.database database) => location.accepting place database
    | some other => location.replacing place other.isEmptyFile
  else .refused .unopenable

def openingIn (location : Location) (files : Files) (place : Place) : Opening :=
  location.opening place (isReachable files place) (files.node? place)

/-- Opening the file at a place has the outcome, and leaves the file, that `Location.openingIn`
tells. -/
theorem connectAt_eq (location : Location) (files : Files) (place : Place) :
    location.connectAt files place = ((location.openingIn files place).outcome,
      (location.openingIn files place).put place files) := by
  have accepts (database : Relational) :
      (Except.ok (location.connectionTo place database),
        (location.connectionTo place database).save files) =
      ((location.accepting place database).outcome,
        (location.accepting place database).put place files) := by
    cases closed : location.readOnly || location.immutable <;>
      simp [Opening.put, accepting, Connection.save, connectionTo, closed]
  have replaces (empty : Bool) :
      (if !empty then (.error .notDatabase, files)
        else if location.readOnly || location.immutable then (.error .readOnly, files)
        else (.ok (location.connectionTo place Relational.blank),
          (location.connectionTo place Relational.blank).save files)) =
      ((location.replacing place empty).outcome,
        (location.replacing place empty).put place files) := by
    unfold replacing
    split
    · rfl
    · split
      · rfl
      · exact accepts _
  unfold openingIn connectAt opening
  cases isReachable files place with
  | false => rfl
  | true =>
      simp only [Bool.not_true, Bool.false_eq_true, ↓reduceIte]
      cases files.node? place with
      | none =>
          dsimp only
          split
          · rfl
          · split
            · rfl
            · exact accepts _
      | some node =>
          cases node with
          | directory => rfl
          | database database => exact accepts database
          | bytes contents => exact replaces contents.isEmpty
          | zeros count => exact replaces (count == 0)

/-- A file is refused, or an empty one is made that cannot be opened, or a database is opened: the
one that lies there, if one does. -/
theorem opening_cases (location : Location) (place : Place) (reachable : Bool)
    (found : Option Node) :
    (∃ fault, location.opening place reachable found = .refused fault) ∨
      (reachable = true ∧ found = none ∧ location.immutable = true ∧
        location.opening place reachable found = .emptied) ∨
      (reachable = true ∧ found ≠ some .directory ∧ ∃ database,
        location.opening place reachable found = location.accepting place database ∧
          ∀ stored, found = some (.database stored) → database = stored) := by
  cases reachable with
  | false => exact Or.inl ⟨_, rfl⟩
  | true =>
      unfold opening replacing
      simp only [↓reduceIte, true_and]
      split
      · split
        · exact Or.inl ⟨_, rfl⟩
        · split
          · rename_i immutable
            exact Or.inr (Or.inl ⟨rfl, immutable, rfl⟩)
          · exact Or.inr (Or.inr ⟨nofun, _, rfl, nofun⟩)
      · exact Or.inl ⟨_, rfl⟩
      · rename_i database
        refine Or.inr (Or.inr ⟨nofun, database, rfl, ?_⟩)
        intro stored same
        cases same
        rfl
      · rename_i other notDirectory notDatabase
        split
        · exact Or.inl ⟨_, rfl⟩
        · split
          · exact Or.inl ⟨_, rfl⟩
          · refine Or.inr (Or.inr ⟨fun same => notDirectory (Option.some.inj same), _, rfl, ?_⟩)
            intro stored same
            exact absurd (Option.some.inj same) (notDatabase stored)

/-- An open database is put back with its schema, if at all. -/
theorem left_accepting {database : Relational}
    (left : (location.accepting place database).left = some node) :
    node = .database database.applySchema := by
  unfold accepting at left
  dsimp only at left
  split at left
  · cases left
  · exact (Option.some.inj left).symm

/-- Whether the schema was there before makes no difference to opening a database. -/
@[simp] theorem accepting_applySchema (location : Location) (place : Place)
    (database : Relational) :
    location.accepting place database.applySchema = location.accepting place database := by
  simp only [accepting, connectionTo, Relational.applySchema_applySchema]

/-- What opening leaves is an empty file or the database that was opened. -/
theorem left_cases (left : (location.opening place reachable found).left = some node) :
    reachable = true ∧ found ≠ some .directory ∧
      ((found = none ∧ node = .bytes [] ∧ location.immutable = true ∧
        location.opening place reachable found = .emptied) ∨
      ∃ database, node = .database database.applySchema ∧
        location.opening place reachable found = location.accepting place database ∧
        ∀ stored, found = some (.database stored) → database = stored) := by
  rcases location.opening_cases place reachable found with
    ⟨fault, refused⟩ | ⟨reached, vacant, immutable, emptied⟩ |
      ⟨reached, free, database, accepted, stored⟩
  · rw [refused] at left
    cases left
  · rw [emptied] at left
    refine ⟨reached, ?_, Or.inl ⟨vacant, (Option.some.inj left).symm, immutable, emptied⟩⟩
    rw [vacant]
    exact nofun
  · rw [accepted] at left
    exact ⟨reached, free, Or.inr ⟨database, left_accepting left, accepted, stored⟩⟩

/-- What is left is a file, and it is left where no directory is. -/
theorem free_of_left (left : (location.opening place reachable found).left = some node) :
    reachable = true ∧ found ≠ some .directory ∧ node ≠ .directory := by
  obtain ⟨reached, free, ⟨_, rfl, _⟩ | ⟨database, rfl, _⟩⟩ := left_cases left
  · exact ⟨reached, free, nofun⟩
  · exact ⟨reached, free, nofun⟩

/-- Opening what was left has the same outcome, and nothing else is left. -/
theorem opening_of_left (left : (location.opening place reachable found).left = some node) :
    (location.opening place true (some node)).outcome =
        (location.opening place reachable found).outcome ∧
      ((location.opening place true (some node)).left = none ∨
        (location.opening place true (some node)).left = some node) := by
  obtain ⟨_, _, ⟨_, rfl, immutable, emptied⟩ | ⟨database, rfl, accepted, _⟩⟩ := left_cases left
  · have again : location.opening place true (some (.bytes [])) = .refused .readOnly := by
      simp [opening, replacing, Node.isEmptyFile, immutable]
    rw [emptied, again]
    exact ⟨rfl, Or.inl rfl⟩
  · have again : location.opening place true (some (.database database.applySchema)) =
        location.accepting place database := location.accepting_applySchema place database
    rw [accepted] at left ⊢
    rw [again]
    exact ⟨rfl, Or.inr left⟩

/-- A database with rows is left as it is. -/
theorem left_of_rows
    (left : (location.opening place reachable (some (.database ⟨some rows⟩))).left = some node) :
    node = .database ⟨some rows⟩ := by
  obtain ⟨_, _, ⟨vacant, _⟩ | ⟨database, rfl, _, stored⟩⟩ := left_cases left
  · cases vacant
  · rw [stored _ rfl, Relational.applySchema_of_table]

/-- An open database lies at its place, and there it is left if it may be written. -/
theorem left_of_open
    (opened : (location.opening place reachable found).outcome = .ok connection) :
    connection.place = some place ∧ (connection.writable = true →
      (location.opening place reachable found).left = some (.database connection.database)) := by
  rcases location.opening_cases place reachable found with
    ⟨fault, refused⟩ | ⟨_, _, _, emptied⟩ | ⟨_, _, database, accepted, _⟩
  · rw [refused] at opened
    cases opened
  · rw [emptied] at opened
    cases opened
  · rw [accepted] at opened ⊢
    cases opened
    refine ⟨rfl, fun writable => ?_⟩
    have allowed : (location.readOnly || location.immutable) = false := by
      simpa only [connectionTo, Bool.not_eq_true'] using writable
    simp only [accepting, connectionTo, allowed, Bool.false_eq_true, ↓reduceIte]

/-- Files that are put aside do not keep others from being reached. -/
theorem isReachable_put (free : files.node? other ≠ some .directory) (file : node ≠ .directory)
    (place : Place) : isReachable (files.put other node) place = isReachable files place := by
  have same : ((files.put other node).node? place.dropLast == some .directory) =
      (files.node? place.dropLast == some .directory) := by
    rw [Bool.eq_iff_iff, beq_iff_eq, beq_iff_eq]
    exact Files.node?_put_eq_directory_iff free file
  unfold isReachable
  rw [same]

/-- At the place at which a file was left it is the file that is found. -/
theorem openingIn_of_left (left : (location.openingIn files place).left = some node) :
    location.openingIn (files.put place node) place =
      location.opening place true (some node) := by
  obtain ⟨reached, free, file⟩ := free_of_left left
  unfold openingIn
  rw [isReachable_put free file, reached,
    Files.node?_put_self files node (Files.isBase_of_not_directory free)]

/-- Opening the file at a place once more has the same outcome and changes nothing. -/
theorem connectAt_connectAt (location : Location) (files : Files) (place : Place) :
    location.connectAt (location.connectAt files place).2 place =
      location.connectAt files place := by
  rw [connectAt_eq location files]
  cases left : (location.openingIn files place).left with
  | none =>
      simp only [Opening.put, left]
      rw [connectAt_eq, Opening.put, left]
  | some node =>
      obtain ⟨outcome, again⟩ := opening_of_left left
      simp only [Opening.put, left]
      rw [connectAt_eq, openingIn_of_left left]
      rcases again with none | same
      · simp only [Opening.put, none, outcome]
        rfl
      · simp only [Opening.put, same, outcome, Files.put_put_self]
        rfl

/-- A file at another place has no part in what comes of opening. -/
theorem connectAt_put (distinct : Path.key place ≠ Path.key other)
    (free : files.node? other ≠ some .directory) (file : node ≠ .directory) :
    location.connectAt (files.put other node) place =
      ((location.connectAt files place).1, (location.connectAt files place).2.put other node) := by
  have same : location.openingIn (files.put other node) place = location.openingIn files place := by
    unfold openingIn
    rw [isReachable_put free file, Files.node?_put_of_key_ne distinct]
  rw [connectAt_eq, connectAt_eq, same]
  cases left : (location.openingIn files place).left with
  | none => simp only [Opening.put, left]
  | some kept => simp only [Opening.put, left, Files.put_comm distinct.symm]

/-- Opening changes nothing, or it puts a file where no directory is. -/
theorem files_connectAt (location : Location) (files : Files) (place : Place) :
    (location.connectAt files place).2 = files ∨ ∃ node,
      (location.connectAt files place).2 = files.put place node ∧
        files.node? place ≠ some .directory ∧ node ≠ .directory := by
  rw [connectAt_eq]
  cases left : (location.openingIn files place).left with
  | none => exact Or.inl (by simp only [Opening.put, left])
  | some node =>
      obtain ⟨_, free, file⟩ := free_of_left left
      exact Or.inr ⟨node, by simp only [Opening.put, left], free, file⟩

/-- Opening the file at a place keeps all stored rows. -/
theorem node?_connectAt (stored : files.node? other = some (.database ⟨some rows⟩)) :
    (location.connectAt files place).2.node? other = some (.database ⟨some rows⟩) := by
  rw [connectAt_eq]
  cases left : (location.openingIn files place).left with
  | none => simpa only [Opening.put, left] using stored
  | some node =>
      simp only [Opening.put, left]
      by_cases same : Path.key other = Path.key place
      · -- The rows lie at the place itself, and so they are what is left there.
        have notBase : Path.isBase other = false := by
          apply Files.isBase_of_not_directory
          rw [stored]
          exact nofun
        have placeNotBase := Files.isBase_of_not_directory (free_of_left left).2.1
        have found : files.node? place = some (.database ⟨some rows⟩) := by
          rw [← stored]
          simp only [Files.node?, notBase, placeNotBase, same]
        unfold openingIn at left
        rw [found] at left
        rw [left_of_rows left]
        simp only [Files.node?, Files.put, notBase, same, Dictionary.get?_insert_self,
          Bool.false_eq_true, ↓reduceIte]
      · rw [Files.node?_put_of_key_ne same, stored]

/-- An open database is written back already. -/
theorem save_connectAt (opened : (location.connectAt files place).1 = .ok connection) :
    connection.save (location.connectAt files place).2 = (location.connectAt files place).2 := by
  rw [connectAt_eq] at opened ⊢
  obtain ⟨there, kept⟩ := left_of_open opened
  cases writable : connection.writable with
  | false => exact Connection.save_of_not_writable _ writable
  | true =>
      have left : (location.openingIn files place).left = some (.database connection.database) :=
        kept writable
      simp only [Opening.put, left, Connection.save, there, writable, ↓reduceIte,
        Files.put_put_self]

/-! ## A location -/

/-- A transient database lies at no place. -/
theorem place_of_connectTransient (opened : location.connectTransient = .ok connection) :
    connection.place = none := by
  unfold connectTransient at opened
  split at opened
  · cases opened
  · cases opened
    rfl

/-- Opening a location always has the same outcome and changes no files, or it opens the file at
a place. -/
theorem connect_cases (location : Location) :
    (∃ outcome, (∀ connection, outcome = .ok connection → connection.place = none) ∧
      ∀ files, location.connect files = (outcome, files)) ∨
    ∃ place, ∀ files, location.connect files = location.connectAt files place := by
  unfold connect
  split
  · exact Or.inl ⟨.error .nulInName, nofun, fun _ => rfl⟩
  · split
    · rename_i layer _
      exact Or.inl ⟨.error (.layer (layerName layer)), nofun, fun _ => rfl⟩
    · rename_i fault _ _
      exact Or.inl ⟨.error fault, nofun, fun _ => rfl⟩
    · split
      · exact Or.inl ⟨_, fun _ => place_of_connectTransient, fun _ => rfl⟩
      · exact Or.inr ⟨_, fun _ => rfl⟩

/-- Opening a location once more has the same outcome and changes nothing. -/
theorem connect_connect (location : Location) (files : Files) :
    location.connect (location.connect files).2 = location.connect files := by
  rcases location.connect_cases with ⟨outcome, _, same⟩ | ⟨place, same⟩
  · rw [same files, same files]
  · rw [same files, same, connectAt_connectAt]

/-- Opening a location changes nothing or leaves a file at one place, where no directory is. -/
theorem files_connect (location : Location) (files : Files) :
    (location.connect files).2 = files ∨ ∃ place node,
      (location.connect files).2 = files.put place node ∧
        files.node? place ≠ some .directory ∧ node ≠ .directory := by
  rcases location.connect_cases with ⟨outcome, _, same⟩ | ⟨place, same⟩
  · rw [same files]
    exact Or.inl rfl
  · rw [same files]
    exact (location.files_connectAt files place).imp_right fun put => ⟨place, put⟩

/-- Opening a location keeps all stored rows. -/
theorem node?_connect (location : Location)
    (stored : files.node? other = some (.database ⟨some rows⟩)) :
    (location.connect files).2.node? other = some (.database ⟨some rows⟩) := by
  rcases location.connect_cases with ⟨outcome, _, same⟩ | ⟨place, same⟩
  · rw [same files]
    exact stored
  · rw [same files]
    exact node?_connectAt stored

/-- What was just opened is already kept as it is. -/
theorem save_connect (opened : (location.connect files).1 = .ok connection) :
    connection.save (location.connect files).2 = (location.connect files).2 := by
  rcases location.connect_cases with ⟨outcome, transient, same⟩ | ⟨place, same⟩
  · rw [same files] at opened
    simp only [Connection.save, transient connection opened]
  · rw [same files] at opened ⊢
    exact save_connectAt opened

/-- Opening a location makes no directories and takes none away. -/
theorem node?_connect_eq_directory_iff (location : Location) :
    (location.connect files).2.node? other = some .directory ↔
      files.node? other = some .directory := by
  rcases location.files_connect files with same | ⟨place, node, put, free, file⟩
  · rw [same]
  · rw [put]
    exact Files.node?_put_eq_directory_iff free file

/-- Opening a location does not take away the directory of a path. -/
theorem makeParent_connect (location : Location) {path : Text}
    (ready : files.makeParent path = (.ok (), files)) :
    (location.connect files).2.makeParent path = (.ok (), (location.connect files).2) := by
  rcases location.files_connect files with same | ⟨place, node, put, free, file⟩
  · rw [same]
    exact ready
  · rw [put]
    exact Files.makeParent_put ready free file

/-- A file that is put somewhere after a location was opened takes the place of what opening left, or
it could as well have been there before. -/
theorem put_connect (location : Location) (free : files.node? other ≠ some .directory)
    (file : node ≠ .directory) :
    (location.connect files).2.put other node = files.put other node ∨
      (location.connect files).2.put other node =
        (location.connect (files.put other node)).2 := by
  rcases location.connect_cases with ⟨outcome, _, constant⟩ | ⟨place, opens⟩
  · rw [constant files]
    exact Or.inl rfl
  · rw [opens files, opens (files.put other node)]
    -- At the place itself the file covers what was left, and elsewhere the two do not meet.
    by_cases same : Path.key place = Path.key other
    · left
      rcases location.files_connectAt files place with unchanged | ⟨left, put, _, _⟩
      · rw [unchanged]
      · rw [put, Files.put_put_of_key_eq same.symm]
    · right
      rw [connectAt_put same free file]

end Location

/-! ## The database of a configuration -/

namespace World

variable {world : World} {config : Config}

/-- The world in which the directory of the database was made, as far as that was possible. -/
def withDirectory (world : World) (config : Config) : World :=
  { world with files := (world.files.makeParent config.database.path).2 }

/-- Opening the database depends on the files only through the directory made for it. -/
theorem connect_congr {left right : World} (surroundings : left.surroundings = right.surroundings)
    (made : left.files.makeParent config.database.path =
      right.files.makeParent config.database.path) :
    left.connect config = right.connect config := by
  unfold connect
  rw [made, surroundings]

/-- What a command finds around it has no part in opening a database. -/
theorem connect_surroundings (world : World) (surroundings : Surroundings) (config : Config) :
    World.connect { world with surroundings } config =
      ((world.connect config).1, { (world.connect config).2 with surroundings }) := by
  simp only [connect]
  split <;> rfl

/-- Where the directory is there, opening the database is opening its location. -/
theorem connect_of_ready {location : Location}
    (ready : world.files.makeParent config.database.path = (.ok (), world.files))
    (parsed : Location.parse config.database.path = .ok location) :
    world.connect config = ((location.connect world.files).1.mapError Location.Fault.failure,
      { world with files := (location.connect world.files).2 }) := by
  simp only [connect, ready, parsed]

/-- Making the directory beforehand makes no difference to opening the database. -/
theorem connect_withDirectory (world : World) (config : Config) :
    (world.withDirectory config).connect config = world.connect config :=
  connect_congr rfl (world.files.makeParent_makeParent _)

/-- The directory of the database is made. Then it may turn out that nothing can be opened, or the
path of the database is that of a location. -/
theorem connect_cases (world : World) (config : Config) :
    (∃ failure, world.connect config = (.error failure, world.withDirectory config)) ∨
      ∃ location, Location.parse config.database.path = .ok location ∧
        (world.withDirectory config).files.makeParent config.database.path =
          (.ok (), (world.withDirectory config).files) := by
  cases made : (world.files.makeParent config.database.path).1 with
  | error fault =>
      left
      exact ⟨Failure.of fault.message, by simp only [connect, made, withDirectory]⟩
  | ok _ =>
      cases parsed : Location.parse config.database.path with
      | error fault =>
          left
          exact ⟨fault.failure, by simp only [connect, made, parsed, withDirectory]⟩
      | ok location =>
          right
          refine ⟨location, rfl, ?_⟩
          unfold withDirectory
          rw [Files.makeParent_makeParent, ← made]

/-- Opening the database of a configuration again has the same outcome and changes nothing. -/
theorem connect_connect (world : World) (config : Config) :
    (world.connect config).2.connect config = world.connect config := by
  rcases world.connect_cases config with ⟨failure, stopped⟩ | ⟨location, parsed, ready⟩
  · rw [stopped, connect_withDirectory, stopped]
  · rw [← connect_withDirectory world, connect_of_ready ready parsed,
      connect_of_ready (location.makeParent_connect ready) parsed, Location.connect_connect]

/-- Opening a database keeps all rows that are stored, wherever they are. -/
theorem node?_connect {place : Place} {rows : List Relational.Row}
    (stored : world.files.node? place = some (.database ⟨some rows⟩)) (config : Config) :
    (world.connect config).2.files.node? place = some (.database ⟨some rows⟩) := by
  have kept : (world.withDirectory config).files.node? place = some (.database ⟨some rows⟩) :=
    Files.node?_makeParent stored _
  rcases world.connect_cases config with ⟨failure, stopped⟩ | ⟨location, parsed, ready⟩
  · rw [stopped]
    exact kept
  · rw [← connect_withDirectory world, connect_of_ready ready parsed]
    exact location.node?_connect kept

/-- The world is already the one in which the database just opened is kept. -/
theorem save_connect {connection : Connection}
    (opened : (world.connect config).1 = .ok connection) :
    (world.connect config).2.save connection = (world.connect config).2 := by
  rcases world.connect_cases config with ⟨failure, stopped⟩ | ⟨location, parsed, ready⟩
  · rw [stopped] at opened
    cases opened
  · rw [← connect_withDirectory world, connect_of_ready ready parsed] at opened ⊢
    have accepted : (location.connect (world.withDirectory config).files).1 = .ok connection := by
      cases outcome : (location.connect (world.withDirectory config).files).1 with
      | error fault =>
          rw [outcome] at opened
          cases opened
      | ok other =>
          rw [outcome] at opened
          cases opened
          rfl
    simp only [save, Location.save_connect accepted]

/-- Making the directory beforehand makes no difference to the file that is put there. -/
theorem resize_withDirectory (world : World) (config : Config) (size : Nat) :
    (world.withDirectory config).resize config size = world.resize config size := by
  unfold resize withDirectory
  rw [Files.write_congr (world.files.makeParent_makeParent _)]

/-- A file under the path of the database takes the place of what opening left, or it could as well
have been there when the database was opened. -/
theorem resize_connect (world : World) (config : Config) (size : Nat) :
    (world.connect config).2.resize config size = world.resize config size ∨
      (world.connect config).2.resize config size =
        ((world.resize config size).connect config).2 := by
  rcases world.connect_cases config with ⟨failure, stopped⟩ | ⟨location, parsed, ready⟩
  · left
    rw [stopped, resize_withDirectory]
  · rw [← connect_withDirectory world, ← resize_withDirectory world, connect_of_ready ready parsed]
    have alsoReady := location.makeParent_connect ready
    -- Where a directory lies under the path no file is put, and else one is put on both sides.
    by_cases directory : (world.withDirectory config).files.node?
        (Path.place config.database.path) = some .directory
    · right
      have kept := (location.node?_connect_eq_directory_iff).mpr directory
      simp only [resize, Files.write_of_directory ready directory,
        Files.write_of_directory alsoReady kept]
      rw [connect_of_ready ready parsed]
    · have free := mt (location.node?_connect_eq_directory_iff).mp directory
      simp only [resize, Files.write_of_free ready directory, Files.write_of_free alsoReady free]
      have file : Node.zeros size ≠ .directory := nofun
      have stillReady := Files.makeParent_put ready directory file
      rw [connect_of_ready stillReady parsed]
      rcases location.put_connect directory file with same | before
      · left
        rw [same]
      · right
        rw [before]

end World

end ThoughtJournal
