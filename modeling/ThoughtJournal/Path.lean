import ThoughtJournal.Text.Utf8

/-! # Paths

A path is a text with parts between slashes. Parts that lead somewhere else are those that are neither
empty nor a dot; two dots lead to the directory above. The place of a path is where its parts lead
from the working directory, whatever lies on the way.
-/

namespace ThoughtJournal

/-- A place: the names from the working directory or from the root on. A place above the working
directory begins with two dots for every level. -/
abbrev Place := List Text

namespace Path

/-- The part of a path that stands for the root of the file system. -/
def rootPart : Text := ['/']

/-- The part of a path that leads to the directory above. -/
def upward : Text := ['.', '.']

/-- The parts of a path that lead somewhere else, in order. An absolute path begins at the root. -/
def parts (path : Text) : List Text :=
  (if path.head? = some '/' then [rootPart] else []) ++
    (Text.splitOn '/' path).filter fun part => !(part.isEmpty || part = ['.'])

/-- Whether a path asks for a directory by its end. -/
def asksForDirectory (path : Text) : Bool :=
  match (Text.splitOn '/' path).getLast? with
  | some last => last.isEmpty || last = ['.']
  | none => false

/-- Whether a place is the working directory, a directory above it, or the root. -/
def isBase (place : Place) : Bool := place.all (· = upward) || place = [rootPart]

/-- The place to which a part leads. Nothing lies above the root. -/
def step (place : Place) (part : Text) : Place :=
  if part = upward then
    if place = [rootPart] then place
    else if isBase place then place ++ [upward]
    else place.dropLast
  else place ++ [part]

/-- The place to which parts lead. -/
def walk (place : Place) (parts : List Text) : Place := parts.foldl step place

def place (path : Text) : Place := walk [] (parts path)

/-- A place as one text. -/
def key (place : Place) : Text := Text.join ['/'] place

/-- The greatest number of bytes of a name. -/
def maximalName : Nat := 255

def maximalLength : Nat := 4095

/-- Whether a name is longer than file systems allow. -/
def isLongName (name : Text) : Bool := decide (maximalName < (Utf8.encode name).length)

/-- Whether a path is longer than file systems allow. -/
def isLong (path : Text) : Bool := decide (maximalLength < (Utf8.encode path).length)

def holdsNul (path : Text) : Bool := path.any (· == '\x00')

/-- The name at the end of a path, without its extension. A name that begins with its only dot has no
extension. -/
def stem? (path : Text) : Option Text :=
  match (parts path).getLast? with
  | none => none
  | some name =>
      if name = upward || name = rootPart then none
      else
        match (Text.splitOn '.' name).dropLast with
        | [] => some name
        | [[]] => some name
        | stems => some (Text.join ['.'] stems)

end Path

end ThoughtJournal
