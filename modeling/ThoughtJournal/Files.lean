import ThoughtJournal.Dictionary
import ThoughtJournal.Path
import ThoughtJournal.Store.Relational

/-! # Files

What lies at the places of the file system, as far as it is known. The working directory, the
directories above it and the root are always there. A path is followed part by part, and every part
but the last has to lead to a directory; so a path can fail although its place exists.
-/

namespace ThoughtJournal

/-- What lies at a place. -/
inductive Node where
  | directory
  /-- A file with the given bytes. -/
  | bytes (contents : Bytes)
  /-- A file of so many zero bytes. -/
  | zeros (count : Nat)
  /-- A file that holds a database. -/
  | database (database : Relational)
deriving DecidableEq, Repr

/-- The number of bytes of what lies at a place, given the number for a file that holds a database. -/
def Node.size (databaseSize : Relational → Nat) : Node → Nat
  | .directory => 0
  | .bytes contents => contents.length
  | .zeros count => count
  | .database stored => databaseSize stored

/-- Whether a file without bytes lies at a place. -/
def Node.isEmptyFile : Node → Bool
  | .bytes contents => contents.isEmpty
  | .zeros count => count == 0
  | .directory | .database _ => false

/-- What lies at the known places. -/
structure Files where
  nodes : Dictionary Node
deriving DecidableEq

namespace Files

def empty : Files := ⟨Dictionary.empty⟩

/-- Why a file cannot be read or made. -/
inductive Fault where
  /-- There is nothing under the path. -/
  | notFound
  /-- Something else is under the path. -/
  | exists
  /-- A directory is under the path. -/
  | isDirectory
  /-- The path leads through a file. -/
  | notDirectory
  /-- A part of the path, or the whole path, is longer than file systems allow. -/
  | nameTooLong
  /-- The path holds a NUL character. -/
  | nulInPath
  /-- The bytes of the file are no text. -/
  | notText
  /-- The file does not fit into memory. -/
  | tooLarge
deriving DecidableEq, Repr

def Fault.message : Fault → Text
  | .notFound => "No such file or directory (os error 2)".toList
  | .exists => "File exists (os error 17)".toList
  | .isDirectory => "Is a directory (os error 21)".toList
  | .notDirectory => "Not a directory (os error 20)".toList
  | .nameTooLong => "File name too long (os error 36)".toList
  | .nulInPath => "file name contained an unexpected NUL byte".toList
  | .notText => "stream did not contain valid UTF-8".toList
  | .tooLarge => "out of memory".toList

/-! ## Places -/

/-- What lies at a place, if anything is known to lie there. -/
def node? (files : Files) (place : Place) : Option Node :=
  if Path.isBase place then some .directory else files.nodes.get? (Path.key place)

/-- The files with something else at a place. -/
def put (files : Files) (place : Place) (node : Node) : Files :=
  ⟨files.nodes.insert (Path.key place) node⟩

/-- Directories lie at the base places. -/
theorem node?_of_isBase (files : Files) {place : Place} (base : Path.isBase place = true) :
    files.node? place = some .directory := by
  simp [node?, base]

/-- What was put at a place lies there, unless it is a base place. -/
theorem node?_put_self (files : Files) (node : Node) {place : Place}
    (notBase : Path.isBase place = false) : (files.put place node).node? place = some node := by
  simp [node?, put, notBase]

/-- What lies anywhere stays when something is put at a place where nothing was. -/
theorem node?_put_of_some {files : Files} {place other : Place} {found : Node} (node : Node)
    (vacant : files.node? place = none) (known : files.node? other = some found) :
    (files.put place node).node? other = some found := by
  simp only [node?, put] at *
  split at known
  · rename_i base
    simpa [base] using known
  · rename_i notBase
    split at vacant
    · cases vacant
    · have distinct : Path.key other ≠ Path.key place := by
        intro same
        rw [same, vacant] at known
        cases known
      simpa [notBase, Dictionary.get?_insert_of_ne node distinct] using known

/-- The base places are never vacant. -/
theorem isBase_of_vacant {files : Files} {place : Place} (vacant : files.node? place = none) :
    Path.isBase place = false := by
  simp only [node?] at vacant
  split at vacant
  · cases vacant
  · rename_i notBase
    simpa using notBase

/-! ## Following a path -/

/-- Follows the parts of a path from a place. -/
def follow (files : Files) (place : Place) : List Text → Except Fault Node
  | [] =>
      match files.node? place with
      | some node => .ok node
      | none => .error .notFound
  | part :: rest =>
      match files.node? place with
      | some .directory =>
          if Path.isLongName part then .error .nameTooLong
          else files.follow (Path.step place part) rest
      | some _ => .error .notDirectory
      | none => .error .notFound

def look (files : Files) (path : Text) : Except Fault Node :=
  if Path.holdsNul path then .error .nulInPath
  else if path.isEmpty then .error .notFound
  else if Path.isLong path then .error .nameTooLong
  else
    match files.follow [] (Path.parts path) with
    | .ok .directory => .ok .directory
    | .ok file => if Path.asksForDirectory path then .error .notDirectory else .ok file
    | .error fault => .error fault

def holds (files : Files) (path : Text) : Bool :=
  match files.look path with
  | .ok _ => true
  | .error _ => false

/-- The number of bytes of the file under a path, zero if there is none. -/
def sizeOf (databaseSize : Relational → Nat) (files : Files) (path : Text) : Nat :=
  match files.look path with
  | .ok node => node.size databaseSize
  | .error _ => 0

/-! ## Reading -/

/-- The size from which on a file does not fit into memory. -/
def memorySize : Nat := Nat.pow 2 40

/-- The number of zero bytes that are read of a file of nothing else. The others would add nothing. -/
def zerosRead : Nat := 4096

def readText (files : Files) (path : Text) : Except Fault Text :=
  match files.look path with
  | .error fault => .error fault
  | .ok .directory => .error .isDirectory
  | .ok (.bytes bytes) =>
      match Utf8.decode? bytes with
      | some text => .ok text
      | none => .error .notText
  | .ok (.zeros size) =>
      if memorySize ≤ size then .error .tooLarge
      else .ok (List.replicate (min size zerosRead) '\x00')
  | .ok (.database _) => .error .notText

/-! ## Making directories and files -/

/-- Makes the directories to which parts lead from a place, as far as they are not there. Those before
a fault remain. -/
def makeFrom (files : Files) (place : Place) : List Text → Except Fault Unit × Files
  | [] => (.ok (), files)
  | part :: rest =>
      if Path.isLongName part then (.error .nameTooLong, files)
      else
        let next := Path.step place part
        match files.node? next with
        | some .directory => files.makeFrom next rest
        | some _ => (.error (if rest.isEmpty then .exists else .notDirectory), files)
        | none => (files.put next .directory).makeFrom next rest

/-- Making directories changes nothing that is there. -/
theorem node?_makeFrom {files : Files} {other : Place} {found : Node}
    (known : files.node? other = some found) (place : Place) (parts : List Text) :
    (files.makeFrom place parts).2.node? other = some found := by
  induction parts generalizing files place with
  | nil => exact known
  | cons part rest ih =>
      simp only [makeFrom]
      split
      · exact known
      · split
        · exact ih known _
        · exact known
        · rename_i vacant
          exact ih (node?_put_of_some .directory vacant known) _

/-- Directories that were made, or could not be made, stay so when it is tried again. -/
theorem makeFrom_makeFrom (files : Files) (place : Place) (parts : List Text) :
    (files.makeFrom place parts).2.makeFrom place parts = files.makeFrom place parts := by
  induction parts generalizing files place with
  | nil => rfl
  | cons part rest ih =>
      by_cases long : Path.isLongName part = true
      · simp [makeFrom, long]
      · cases found : files.node? (Path.step place part) with
        | none =>
            have made : (files.put (Path.step place part) .directory).node?
                (Path.step place part) = some .directory :=
              node?_put_self files .directory (isBase_of_vacant found)
            have kept := node?_makeFrom made (Path.step place part) rest
            simp [makeFrom, long, found, kept, ih]
        | some node =>
            cases node with
            | directory =>
                have kept := node?_makeFrom found (Path.step place part) rest
                simp [makeFrom, long, found, kept, ih]
            | bytes contents => simp [makeFrom, long, found]
            | zeros count => simp [makeFrom, long, found]
            | database database => simp [makeFrom, long, found]

/-- Makes the directory to which parts lead, and all on the way to it. -/
def makeDirectory (files : Files) (parts : List Text) : Except Fault Unit × Files :=
  if parts.any Path.holdsNul then (.error .nulInPath, files)
  else if Path.isLong (Path.key parts) then (.error .nameTooLong, files)
  else files.makeFrom [] parts

/-- Making a directory once more has the same outcome and changes nothing. -/
theorem makeDirectory_makeDirectory (files : Files) (parts : List Text) :
    (files.makeDirectory parts).2.makeDirectory parts = files.makeDirectory parts := by
  by_cases nul : parts.any Path.holdsNul = true
  · simp [makeDirectory, nul]
  · by_cases long : Path.isLong (Path.key parts) = true
    · simp [makeDirectory, nul, long]
    · simp only [makeDirectory, nul, long]
      exact makeFrom_makeFrom files [] parts

/-- Makes the directory in which the file of a path lies. -/
def makeParent (files : Files) (path : Text) : Except Fault Unit × Files :=
  files.makeDirectory (Path.parts path).dropLast

/-- The files with a file under a path, and with the directory in which it lies. Where there is a
directory no file is made. -/
def write (files : Files) (path : Text) (node : Node) : Files :=
  let made := files.makeParent path
  let place := Path.place path
  match made.1, made.2.node? place with
  | .error _, _ => made.2
  | .ok _, some .directory => made.2
  | .ok _, _ => made.2.put place node

/-- The files with the given bytes under their paths. -/
def ofList (entries : List (Text × Bytes)) : Files :=
  entries.foldl (fun files entry => files.write entry.1 (.bytes entry.2)) empty

end Files

end ThoughtJournal
