import ThoughtJournal.Store.Connection
import ThoughtJournal.Text.Percent
import ThoughtJournal.Text.Quoted

/-! # Locations of databases

The path of a database is the name of a file in percent notation and, after a question mark, the
parameters with which it is opened. A database without a file lasts as long as its connection. Opening
a location makes a database where there is none or an empty file; whatever else is no database is
refused, and so is a change of the schema where nothing may be written.
-/

namespace ThoughtJournal

/-- Where a database is, and how it is opened. -/
structure Location where
  name : Text
  /-- The database has no file. -/
  inMemory : Bool
  /-- The database is only read. -/
  readOnly : Bool
  /-- The file of the database does not change. -/
  immutable : Bool
  /-- The name of the layer through which the file is opened. -/
  layer : Option Text
deriving DecidableEq, Repr

namespace Location

/-- Why a location cannot be read or opened. -/
inductive Fault where
  /-- The name of the file is no text. -/
  | malformed (place : Utf8.Malformed)
  /-- A parameter has a value that it cannot have. -/
  | value (parameter value : Text)
  /-- There is no such parameter. -/
  | parameter (name : Text)
  /-- The name of the file holds a NUL character. -/
  | nulInName
  /-- The file is on another machine. -/
  | authority (name : Text)
  /-- There is no such layer. -/
  | layer (name : Text)
  /-- There is no file that could be opened. -/
  | unopenable
  /-- Nothing may be written. -/
  | readOnly
  /-- The file is no database. -/
  | notDatabase
deriving DecidableEq, Repr

/-- A failure of a step before the database, with its cause. -/
def Fault.failureOf (step : String) (cause : Text) : Failure :=
  ⟨"error ".toList ++ step.toList ++ [':', ' '] ++ cause, [cause]⟩

def Fault.failure : Fault → Failure
  | .malformed place => failureOf "with configuration" place.message
  | .value name given =>
      failureOf "with configuration" ("unknown value ".toList ++ Text.quoted given ++
        " for \x60".toList ++ name ++ ['\x60'])
  | .parameter name =>
      failureOf "with configuration" ("unknown query parameter \x60".toList ++ name ++
        "\x60 while parsing connection URL".toList)
  | .nulInName =>
      failureOf "communicating with database"
        "filename passed to SQLite must not contain nul bytes".toList
  | .authority name => Relational.failure 1 ("invalid uri authority: ".toList ++ name)
  | .layer name => Relational.failure 1 ("no such vfs: ".toList ++ name)
  | .unopenable => Relational.failure 14 "unable to open database file".toList
  | .readOnly => Relational.readOnly
  | .notDatabase => Relational.failure 26 "file is not a database".toList

/-! ## Reading -/

/-- The name that stands for a database without a file. -/
def memoryName : Text := ":memory:".toList

/-- The location with a name and without parameters. -/
def ofName (name : Text) : Location := ⟨name, false, false, false, none⟩

/-- The location that the text before the parameters names. -/
def readName (text : Text) : Except Fault Location :=
  if text = memoryName then .ok (ofName memoryName)
  else
    match Utf8.read (Percent.decode text) with
    | .ok name => .ok (ofName name)
    | .error malformed => .error (.malformed malformed)

def set (location : Location) (parameter : Text × Text) : Except Fault Location :=
  let value := parameter.2
  if parameter.1 = "mode".toList then
    if value = "ro".toList then .ok { location with readOnly := true }
    else if value = "memory".toList then .ok { location with inMemory := true }
    else if value = "rw".toList ∨ value = "rwc".toList then .ok location
    else .error (.value parameter.1 value)
  else if parameter.1 = "cache".toList then
    if value = "private".toList ∨ value = "shared".toList then .ok location
    else .error (.value parameter.1 value)
  else if parameter.1 = "immutable".toList then
    if value = "true".toList ∨ value = ['1'] then .ok { location with immutable := true }
    else if value = "false".toList ∨ value = ['0'] then .ok { location with immutable := false }
    else .error (.value parameter.1 value)
  else if parameter.1 = "vfs".toList then .ok { location with layer := some value }
  else .error (.parameter parameter.1)

def parse (path : Text) : Except Fault Location :=
  let text := Text.dropLeading "//".toList (Text.dropLeading "sqlite:".toList path)
  match readName (text.takeWhile (· != '?')) with
  | .error fault => .error fault
  | .ok location => (Percent.fields ((text.dropWhile (· != '?')).drop 1)).foldlM set location

/-! ## Files of databases -/

/-- Whether the name of the file is handed over together with parameters. -/
def hasParameters (location : Location) : Bool := location.immutable || location.layer.isSome

/-- The part of a text before the first NUL character. -/
def beforeNul (text : Text) : Text := text.takeWhile (· != '\x00')

/-- The file that the text of an address names after the word for files. -/
def fileOfAddress (address : Text) : Except Fault Text :=
  let path (text : Text) : Text :=
    beforeNul (Utf8.decodeLossy (Percent.decode (text.takeWhile fun c => c != '?' && c != '#')))
  match address with
  | '/' :: '/' :: rest =>
      let authority := rest.takeWhile (· != '/')
      if authority.isEmpty || authority = "localhost".toList then
        .ok (path (rest.drop authority.length))
      else .error (.authority authority)
  | _ => .ok (path address)

def file (location : Location) : Except Fault Text :=
  if location.hasParameters then .ok (beforeNul location.name)
  else if "file:".toList.isPrefixOf location.name then fileOfAddress (location.name.drop 5)
  else .ok location.name

/-- The layers through which files are opened. -/
def fileLayers : List Text :=
  ["unix".toList, "unix-none".toList, "unix-dotfile".toList, "unix-excl".toList]

/-- The layer that keeps databases without files. -/
def memoryLayer : Text := "memdb".toList

/-- The greatest number of bytes of the place of a database. -/
def maximalLength : Nat := 480

/-- Whether a file can be at a place: it lies in a directory, and no name is too long. -/
def isReachable (files : Files) (place : Place) : Bool :=
  files.node? place.dropLast == some .directory && !place.any Path.isLongName &&
    decide ((Utf8.encode (Path.key place)).length ≤ maximalLength)

/-- The connection to a database at a place, with its schema. -/
def connectionTo (location : Location) (place : Place) (database : Relational) : Connection :=
  ⟨database.applySchema, !(location.readOnly || location.immutable), some place⟩

/-- Opens the file at a place, and gives the files afterwards. -/
def connectAt (location : Location) (files : Files) (place : Place) :
    Except Fault Connection × Files :=
  let opened (database : Relational) : Except Fault Connection × Files :=
    let connection := location.connectionTo place database
    (.ok connection, connection.save files)
  if !isReachable files place then (.error .unopenable, files)
  else
    match files.node? place with
    | none =>
        if location.readOnly then (.error .unopenable, files)
        else if location.immutable then (.error .readOnly, files.put place (.bytes []))
        else opened Relational.blank
    | some .directory => (.error .unopenable, files)
    | some (.database database) => opened database
    | some other =>
        if !other.isEmptyFile then (.error .notDatabase, files)
        else if location.readOnly || location.immutable then (.error .readOnly, files)
        else opened Relational.blank

def connectTransient (location : Location) : Except Fault Connection :=
  if location.readOnly then .error .readOnly else .ok ⟨Relational.empty, true, none⟩

/-- Whether a database is without a file, given the name of the file. -/
def isTransient (location : Location) (file : Text) : Bool :=
  location.inMemory || file.isEmpty || file = memoryName || location.layer = some memoryLayer

/-- The name of a layer as it is handed over, with a plus sign for every space. -/
def layerName (layer : Text) : Text := beforeNul (layer.map fun c => if c == ' ' then '+' else c)

/-- Whether the layer of a location is one that exists. -/
def hasLayer (layer : Text) : Bool := layer = memoryLayer || fileLayers.elem layer

/-- Opens a location, and gives the files afterwards. -/
def connect (location : Location) (files : Files) : Except Fault Connection × Files :=
  if !location.hasParameters && Path.holdsNul location.name then (.error .nulInName, files)
  else
    match location.layer.filter fun layer => !hasLayer layer, location.file with
    | some layer, _ => (.error (.layer (layerName layer)), files)
    | none, .error fault => (.error fault, files)
    | none, .ok file =>
        if location.isTransient file then (location.connectTransient, files)
        else location.connectAt files (Path.place file)

end Location

end ThoughtJournal
